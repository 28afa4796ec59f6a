import GizmoSqlOdbc.EnvironmentAttributes
import GizmoSqlOdbc.WideOutput

/-! The descriptor records the entry points read and copy: `SQLGetDescRec` and
`SQLGetDescRecW` on any descriptor, `SQLDescribeCol`, `SQLDescribeColW` and
`SQLNumResultCols` on a statement's implementation row descriptor, and `SQLCopyDesc`
from one descriptor to another.

`SQLGetDescRec` takes a signed record number and answers `SQL_NO_DATA` outside
`1 .. size`; `SQLDescribeCol` takes an unsigned column number and throws `07009`
outside the same range. `SQLNumResultCols` reports the record count cast to
`SQLSMALLINT`, so it agrees with the columns `SQLDescribeCol` accepts only below
`2^15` records. `SQLCopyDesc` replaces the destination's records by the source's, so
every run of copies leaves each descriptor holding records some descriptor held before
the run.

The records and the name writers `GetAttributeUTF8` and `GetAttributeSQLWCHAR` are not
in the sources: a record is taken to be the fields the entry points read, and a name is
modelled as the string handed to its writer. -/
namespace GizmoSqlOdbc.Descriptors
open GizmoSqlOdbc.SqlText GizmoSqlOdbc.WideOutput GizmoSqlOdbc.FunctionBitmap
open GizmoSqlOdbc.EnvironmentAttributes

/-- Modelled from the spec: the fields of an `odbcabstraction::DescriptorRecord` the entry
points read, not in the sources; `length` is the `SQLULEN` `m_length`. -/
structure DescriptorRecord where
  name : String
  type : SQLSMALLINT
  conciseType : SQLSMALLINT
  datetimeIntervalCode : SQLSMALLINT
  length : BitVec 64
  precision : SQLSMALLINT
  scale : SQLSMALLINT
  nullable : SQLSMALLINT
  deriving DecidableEq, Repr

/-- What `SQLGetDescRec` gives back for a record it finds: the name it hands to the name
writer and the fields it stores, `length` as `static_cast<SQLLEN>(rec.m_length)`. -/
structure DescRec where
  name : String
  type : SQLSMALLINT
  subType : SQLSMALLINT
  length : Int
  precision : SQLSMALLINT
  scale : SQLSMALLINT
  nullable : SQLSMALLINT
  deriving DecidableEq, Repr

/-- `SQLGetDescRec` on a descriptor holding `records`, every output pointer given. -/
def SQLGetDescRec (records : List DescriptorRecord) (recNum : SQLSMALLINT) :
    SQLRETURN × Option DescRec :=
  if h : recNum.toInt < 1 ∨ records.length < recNum.toInt.toNat then (.SQL_NO_DATA, none)
  else
    let record := records.get ⟨(recNum.toInt - 1).toNat, by omega⟩
    (.SQL_SUCCESS, some ⟨record.name, record.type, record.datetimeIntervalCode,
      record.length.toInt, record.precision, record.scale, record.nullable⟩)

/-- `SQLGetDescRecW`: the same reads, the name handed to `GetAttributeSQLWCHAR`. -/
def SQLGetDescRecW (records : List DescriptorRecord) (recNum : SQLSMALLINT) :
    SQLRETURN × Option DescRec :=
  SQLGetDescRec records recNum

/-- What `SQLDescribeCol` gives back for a column: the name it hands to the name writer,
the concise type, the column size (`SQLULEN`), the decimal digits and the nullability. -/
structure ColumnDescription where
  name : String
  dataType : SQLSMALLINT
  colSize : BitVec 64
  decimalDigits : SQLSMALLINT
  nullable : SQLSMALLINT
  deriving DecidableEq, Repr

/-- The exception `SQLDescribeCol` throws for a column outside the row descriptor. -/
def invalidDescriptorIndex : DriverException := ⟨"Invalid descriptor index", "07009"⟩

/-- `SQLDescribeCol` on a statement whose implementation row descriptor holds `ird`, every
output pointer given. -/
def SQLDescribeCol (ird : List DescriptorRecord) (colNum : SQLUSMALLINT) :
    Except DriverException ColumnDescription :=
  if h : colNum.toNat < 1 ∨ ird.length < colNum.toNat then .error invalidDescriptorIndex
  else
    let record := ird.get ⟨colNum.toNat - 1, by omega⟩
    .ok ⟨record.name, record.conciseType, record.length, record.scale, record.nullable⟩

/-- `SQLDescribeColW`: the same reads, the name handed to `GetAttributeSQLWCHAR`. -/
def SQLDescribeColW (ird : List DescriptorRecord) (colNum : SQLUSMALLINT) :
    Except DriverException ColumnDescription :=
  SQLDescribeCol ird colNum

/-- `SQLNumResultCols`: `static_cast<SQLSMALLINT>(ird->GetRecords().size())`. -/
def SQLNumResultCols (ird : List DescriptorRecord) : SQLSMALLINT :=
  BitVec.ofNat 16 ird.length

/-- `SQLCopyDesc` over the records of every descriptor, handles given as addresses
(`none` for a null handle). -/
def SQLCopyDesc (hDescSrc hDescDst : Option Nat) (records : Nat → List DescriptorRecord) :
    SQLRETURN × (Nat → List DescriptorRecord) :=
  match hDescSrc, hDescDst with
  | some src, some dst => (.SQL_SUCCESS, Function.update records dst (records src))
  | _, _ => (.SQL_INVALID_HANDLE, records)

/-- The records of every descriptor after a run of `SQLCopyDesc` calls, oldest first. -/
def copyAll (records : Nat → List DescriptorRecord) :
    List (Option Nat × Option Nat) → Nat → List DescriptorRecord
  | [] => records
  | (src, dst) :: calls => copyAll (SQLCopyDesc src dst records).2 calls

/-! ### Which records the readers reach -/

theorem SQLDescribeCol_ok_iff (ird : List DescriptorRecord) (colNum : SQLUSMALLINT) :
    (∃ d, SQLDescribeCol ird colNum = .ok d) ↔ 1 ≤ colNum.toNat ∧ colNum.toNat ≤ ird.length := by
  unfold SQLDescribeCol
  split
  · simp only [reduceCtorEq, exists_false, false_iff]; omega
  · simp only [Except.ok.injEq, exists_eq', true_iff]; omega

/-- The count is the record count exactly below `2^15` records. -/
theorem SQLNumResultCols_toInt_eq_iff (ird : List DescriptorRecord) :
    (SQLNumResultCols ird).toInt = ird.length ↔ ird.length < 2 ^ 15 := by
  rw [SQLNumResultCols, BitVec.toInt_ofNat, Int.bmod_def]
  split <;> omega

/-- **The column count bounds the columns described exactly below `2^15`.** For every
implementation row descriptor, the columns `SQLDescribeCol` describes are exactly
`1 .. n` for the count `n` that `SQLNumResultCols` reports if and only if the descriptor
holds fewer than `2^15` records: from `2^15` records on, column `2^15` is described but
lies past every count an `SQLSMALLINT` can carry. -/
theorem described_columns_match_count_iff (ird : List DescriptorRecord) :
    (∀ colNum : SQLUSMALLINT, (∃ d, SQLDescribeCol ird colNum = .ok d) ↔
      1 ≤ colNum.toNat ∧ (colNum.toNat : Int) ≤ (SQLNumResultCols ird).toInt) ↔
      ird.length < 2 ^ 15 := by
  constructor
  · intro agree
    by_contra large
    have column : (BitVec.ofNat 16 (2 ^ 15) : SQLUSMALLINT).toNat = 2 ^ 15 := rfl
    have described := (SQLDescribeCol_ok_iff ird (BitVec.ofNat 16 (2 ^ 15))).mpr
      ⟨by rw [column]; omega, by rw [column]; omega⟩
    have counted := ((agree _).mp described).2
    have := SQLSMALLINT_toInt_bounds (SQLNumResultCols ird)
    rw [column] at counted
    omega
  · intro small colNum
    rw [SQLDescribeCol_ok_iff, (SQLNumResultCols_toInt_eq_iff ird).mpr small]
    omega

theorem SQLGetDescRec_found_iff (records : List DescriptorRecord) (recNum : SQLSMALLINT) :
    (SQLGetDescRec records recNum).1 = .SQL_SUCCESS ↔
      1 ≤ recNum.toInt ∧ recNum.toInt ≤ records.length := by
  unfold SQLGetDescRec
  split
  · simp only [reduceCtorEq, false_iff]; omega
  · simp only [true_iff]; omega

/-- **The two readers of a row descriptor agree on the numbers they both read alike.**
For every descriptor and every 16-bit record number `b`, `SQLGetDescRec`, which reads
`b` as signed, finds record `b` exactly when `SQLDescribeCol`, which reads it as
unsigned, describes column `b` and `b < 2^15`; where both answer they report the same
name, scale and nullability, and `SQLGetDescRec`'s length is `SQLDescribeCol`'s column
size read as a signed `SQLLEN`. -/
theorem desc_rec_agrees_with_describe_col (ird : List DescriptorRecord) (b : BitVec 16) :
    ((SQLGetDescRec ird b).1 = .SQL_SUCCESS ↔
      (∃ d, SQLDescribeCol ird b = .ok d) ∧ b.toNat < 2 ^ 15) ∧
      ∀ d r, SQLDescribeCol ird b = .ok d → (SQLGetDescRec ird b).2 = some r →
        r.name = d.name ∧ r.length = d.colSize.toInt ∧ r.scale = d.decimalDigits ∧
          r.nullable = d.nullable := by
  have bounds := BitVec.toInt_eq_toNat_cond b
  refine ⟨by rw [SQLGetDescRec_found_iff, SQLDescribeCol_ok_iff]; split at bounds <;> omega, ?_⟩
  intro d r described found
  unfold SQLDescribeCol at described
  unfold SQLGetDescRec at found
  split at found
  · cases found
  rename_i inRange
  have same : (b.toInt - 1).toNat = b.toNat - 1 := by split at bounds <;> omega
  split at described
  · cases described
  cases described
  cases found
  simp only [List.get_eq_getElem, same, and_self]

/-! ### Copies -/

/-- One copy: the destination reads as the source did, every other descriptor as before;
a null handle changes nothing. -/
theorem SQLCopyDesc_records (hDescSrc hDescDst : Option Nat)
    (records : Nat → List DescriptorRecord) (d : Nat) :
    (SQLCopyDesc hDescSrc hDescDst records).2 d =
      match hDescSrc, hDescDst with
      | some src, some dst => if d = dst then records src else records d
      | _, _ => records d := by
  rcases hDescSrc with _ | src <;> rcases hDescDst with _ | dst
  case some.some => exact Function.update_apply records dst (records src) d
  all_goals rfl

/-- **Copies never invent records.** From any descriptors, after every run of
`SQLCopyDesc` calls (null handles included), each descriptor holds exactly the records
some descriptor held before the run, and a descriptor that no call of the run copied
into still holds its own. -/
theorem copy_run_keeps_source_records (calls : List (Option Nat × Option Nat))
    (records : Nat → List DescriptorRecord) (d : Nat) :
    (∃ d₀, copyAll records calls d = records d₀) ∧
      ((∀ call ∈ calls, call.2 ≠ some d) → copyAll records calls d = records d) := by
  induction calls generalizing records d with
  | nil => exact ⟨⟨d, rfl⟩, fun _ => rfl⟩
  | cons call calls ih =>
    obtain ⟨src, dst⟩ := call
    refine ⟨?_, fun untouched => ?_⟩
    · obtain ⟨d₁, held⟩ := (ih (SQLCopyDesc src dst records).2 d).1
      rw [copyAll, held, SQLCopyDesc_records]
      rcases src with _ | src <;> rcases dst with _ | dst
      case some.some =>
        by_cases hit : d₁ = dst
        · exact ⟨src, if_pos hit⟩
        · exact ⟨d₁, if_neg hit⟩
      all_goals exact ⟨d₁, rfl⟩
    · rw [copyAll, (ih _ d).2 fun c mem => untouched c (List.mem_cons_of_mem _ mem),
        SQLCopyDesc_records]
      have elsewhere : dst ≠ some d := untouched (src, dst) (List.mem_cons_self _ _)
      rcases src with _ | src <;> rcases dst with _ | dst
      case some.some => exact if_neg fun same => elsewhere (congrArg some same.symm)
      all_goals rfl

end GizmoSqlOdbc.Descriptors
