import GizmoSqlOdbc.SqlText

/-! The supported-functions bitmap behind `SQLGetFunctions`. `SetFunction` sets bit
`funcId & 0x0F` of word `funcId >> 4`, and the header macro `SQL_FUNC_EXISTS` reads
the same bit back, so over every list of ids below `16 * SQL_API_ODBC3_ALL_FUNCTIONS_SIZE`
a zeroed bitmap filled by `SetFunction` answers exactly the ids of the list. A
single-id query reads word `functionId >> 4` of the 250-word local array with no
range check, so every 16-bit id from 4000 on reads past it. -/
namespace GizmoSqlOdbc.FunctionBitmap
open GizmoSqlOdbc.SqlText

/-- `SQLUSMALLINT`, the type of function ids and bitmap words. -/
abbrev SQLUSMALLINT := BitVec 16

/-- The bitmap as its words. Ids and words are kept as `Nat`: every id `SetFunction`
receives is below `2^16`, and `1 << (funcId & 0x0F)` is below `2^16`, so the C
arithmetic never wraps. -/
abbrev Bitmap := List Nat

/-- `SQL_API_ODBC3_ALL_FUNCTIONS_SIZE` of `sqlext.h`: the bitmap's word count. -/
def SQL_API_ODBC3_ALL_FUNCTIONS_SIZE : Nat := 250
/-- `SQL_API_ODBC3_ALL_FUNCTIONS` of `sqlext.h`: the id that asks for the whole bitmap. -/
def SQL_API_ODBC3_ALL_FUNCTIONS : Nat := 999
/-- `SQL_API_ALL_FUNCTIONS` of `sqlext.h`: the id that asks for the ODBC 2 array. -/
def SQL_API_ALL_FUNCTIONS : Nat := 0
/-- `SQL_TRUE` of `sqltypes.h`. -/
def SQL_TRUE : Nat := 1
/-- `SQL_FALSE` of `sqltypes.h`. -/
def SQL_FALSE : Nat := 0

/-- `SetFunction`: `bitmap[funcId >> 4] |= (1 << (funcId & 0x0F))`. The index is not
checked in C; a word outside the array is a write past it. -/
def SetFunction (bitmap : Bitmap) (funcId : Nat) : Except Fault Bitmap :=
  if funcId >>> 4 < bitmap.length then
    .ok (bitmap.modify (· ||| 1 <<< (funcId &&& 0x0F)) (funcId >>> 4))
  else .error .overwrite

/-- The ids `FillFunctionBitmap` registers, in its order (values of `sql.h` and
`sqlext.h`): handle management, environment, connection, statement execution,
results, statement attributes, descriptors, catalog, diagnostics, parameters,
cursor names, bulk operations and positioning. -/
def registeredFunctions : List Nat :=
  [1001, 1006, 16,
   1019, 1012,
   41, 7, 55, 9, 45, 1016, 1007, 44, 1005, 62,
   19, 12, 11, 5,
   13, 1021, 59, 43, 4, 18, 8, 6, 20, 61, 1003,
   1020, 1014,
   1008, 1017, 1009, 1018, 1004,
   54, 40, 47, 65, 60, 53, 52, 67, 66, 70, 56,
   1011, 1010,
   72, 63,
   17, 21,
   24, 68]

/-- `FillFunctionBitmap`: zero the `SQL_API_ODBC3_ALL_FUNCTIONS_SIZE` words, then
`SetFunction` each registered id. -/
def FillFunctionBitmap : Except Fault Bitmap :=
  registeredFunctions.foldlM SetFunction (List.replicate SQL_API_ODBC3_ALL_FUNCTIONS_SIZE 0)

/-- The `SQL_FUNC_EXISTS` macro of `sqlext.h`: `SQL_TRUE` when bit `uwAPI & 0x000F`
of word `uwAPI >> 4` is set. The word is read unchecked; one outside the array is a
read past it. -/
def SQL_FUNC_EXISTS (pfExists : Bitmap) (uwAPI : Nat) : Except Fault Nat :=
  match pfExists[uwAPI >>> 4]? with
  | some word => .ok (if word &&& 1 <<< (uwAPI &&& 0x000F) ≠ 0 then SQL_TRUE else SQL_FALSE)
  | none => .error .overread

/-- What `SQLGetFunctions` writes through `supported`. -/
inductive Supported where
  /-- The caller's `SQL_API_ODBC3_ALL_FUNCTIONS_SIZE`-word bitmap. -/
  | bitmap (words : Bitmap)
  /-- The ODBC 2 array of 100 entries. -/
  | array (entries : List Nat)
  /-- The one answer of a single-id query. -/
  | single (answer : Nat)
  deriving DecidableEq, Repr

/-- `SQLGetFunctions`, the body run under `ExecuteWithDiagnostics`, which returns
`SQL_SUCCESS` whenever it completes. The ODBC 2 branch zeroes 100 entries and sets
to `SQL_TRUE` each `i < 100` whose bit exists. -/
def SQLGetFunctions (functionId : SQLUSMALLINT) : Except Fault Supported :=
  if functionId.toNat = SQL_API_ODBC3_ALL_FUNCTIONS then
    .bitmap <$> FillFunctionBitmap
  else if functionId.toNat = SQL_API_ALL_FUNCTIONS then do
    let bitmap ← FillFunctionBitmap
    let entries ← (List.range 100).mapM fun i => do
      let exists_ ← SQL_FUNC_EXISTS bitmap i
      pure (if exists_ ≠ SQL_FALSE then SQL_TRUE else 0)
    pure (.array entries)
  else do
    let bitmap ← FillFunctionBitmap
    let exists_ ← SQL_FUNC_EXISTS bitmap functionId.toNat
    pure (.single (if exists_ ≠ SQL_FALSE then SQL_TRUE else SQL_FALSE))

/-! ### The word/bit encoding -/

theorem shiftRight_four (f : Nat) : f >>> 4 = f / 16 := Nat.shiftRight_eq_div_pow f 4

theorem and_fifteen (f : Nat) : f &&& 0x0F = f % 16 := Nat.and_pow_two_sub_one_eq_mod f 4

/-- An id is its word and its bit: two ids with the same word and bit are equal. -/
theorem eq_of_word_bit {f g : Nat} (word : f >>> 4 = g >>> 4) (bit : f &&& 0x0F = g &&& 0x0F) :
    f = g := by
  rw [shiftRight_four, shiftRight_four] at word
  rw [and_fifteen, and_fifteen] at bit
  omega

theorem mask_ne_zero_iff (word c : Nat) : word &&& 1 <<< c ≠ 0 ↔ word.testBit c = true := by
  rw [Nat.one_shiftLeft]
  constructor
  · intro h
    obtain ⟨i, hi⟩ := Nat.ne_zero_implies_bit_true h
    simp only [Nat.testBit_and, Nat.testBit_two_pow, Bool.and_eq_true, decide_eq_true_eq] at hi
    exact hi.2 ▸ hi.1
  · intro h zero
    simpa [h, Nat.testBit_two_pow] using congrArg (Nat.testBit · c) zero

theorem testBit_set (word b c : Nat) :
    (word ||| 1 <<< b).testBit c = (word.testBit c || decide (b = c)) := by
  rw [Nat.testBit_or, Nat.one_shiftLeft, Nat.testBit_two_pow]

/-- Every word read inside the array answers by its bit. -/
theorem SQL_FUNC_EXISTS_of_getElem? {bitmap : Bitmap} {f word : Nat}
    (h : bitmap[f >>> 4]? = some word) :
    SQL_FUNC_EXISTS bitmap f =
      .ok (if word.testBit (f &&& 0x0F) then SQL_TRUE else SQL_FALSE) := by
  simp only [SQL_FUNC_EXISTS, h, ne_eq, mask_ne_zero_iff]

/-- `SQL_FUNC_EXISTS` faults only by reading past the array. -/
theorem SQL_FUNC_EXISTS_eq_error_iff (bitmap : Bitmap) (f : Nat) (fault : Fault) :
    SQL_FUNC_EXISTS bitmap f = .error fault ↔ fault = .overread ∧ bitmap.length ≤ f >>> 4 := by
  unfold SQL_FUNC_EXISTS
  split <;> rename_i h
  · have := (List.getElem?_eq_some_iff.mp h).1
    simp only [reduceCtorEq, false_iff, not_and, Nat.not_le]
    exact fun _ => this
  · simp [List.getElem?_eq_none_iff.mp h, eq_comm]

/-! ### Filling the bitmap -/

/-- The bitmap a run of `SetFunction` over `ids` keeps: its
`SQL_API_ODBC3_ALL_FUNCTIONS_SIZE` words, and every id of their range set exactly
when it is in `ids`. -/
structure Encodes (bitmap : Bitmap) (ids : List Nat) : Prop where
  size : bitmap.length = SQL_API_ODBC3_ALL_FUNCTIONS_SIZE
  bit : ∀ f < 16 * SQL_API_ODBC3_ALL_FUNCTIONS_SIZE,
    (bitmap[f >>> 4]?).map (·.testBit (f &&& 0x0F)) = some (decide (f ∈ ids))

theorem word_lt_size {f : Nat} (small : f < 16 * SQL_API_ODBC3_ALL_FUNCTIONS_SIZE) :
    f >>> 4 < SQL_API_ODBC3_ALL_FUNCTIONS_SIZE := by
  rw [shiftRight_four]
  unfold SQL_API_ODBC3_ALL_FUNCTIONS_SIZE at *
  omega

theorem encodes_zero : Encodes (List.replicate SQL_API_ODBC3_ALL_FUNCTIONS_SIZE 0) [] where
  size := List.length_replicate _ _
  bit f small := by simp [List.getElem?_replicate, word_lt_size small]

/-- Every id of the range has its word, whose bit is its membership. -/
theorem Encodes.word {bitmap : Bitmap} {ids : List Nat} (enc : Encodes bitmap ids) {f : Nat}
    (small : f < 16 * SQL_API_ODBC3_ALL_FUNCTIONS_SIZE) :
    ∃ word, bitmap[f >>> 4]? = some word ∧ word.testBit (f &&& 0x0F) = decide (f ∈ ids) := by
  have := enc.bit f small
  cases h : bitmap[f >>> 4]? with
  | none => simp [h] at this
  | some word => exact ⟨word, rfl, by simpa [h] using this⟩

/-- One `SetFunction` of an id in range adds exactly that id. -/
theorem SetFunction_encodes {bitmap : Bitmap} {ids : List Nat} {f : Nat}
    (enc : Encodes bitmap ids) (small : f < 16 * SQL_API_ODBC3_ALL_FUNCTIONS_SIZE) :
    ∃ bitmap', SetFunction bitmap f = .ok bitmap' ∧ Encodes bitmap' (ids ++ [f]) := by
  refine ⟨_, if_pos (enc.size ▸ word_lt_size small), (List.length_modify ..).trans enc.size, ?_⟩
  intro g gsmall
  rw [List.getElem?_modify]
  by_cases same : f >>> 4 = g >>> 4
  · have key : f &&& 0x0F = g &&& 0x0F ↔ g = f :=
      ⟨fun bit => (eq_of_word_bit same bit).symm, fun e => by rw [e]⟩
    obtain ⟨word, h, bit⟩ := enc.word gsmall
    simp only [h, if_pos same, Option.map_eq_map, Option.map_some', testBit_set, bit, key,
      List.mem_append, List.mem_singleton, Bool.decide_or]
  · have same' : g ≠ f := fun e => same (by rw [e])
    simpa [same, same'] using enc.bit g gsmall

/-- A run of `SetFunction` over ids in range never faults and adds exactly its ids. -/
theorem foldlM_SetFunction_encodes (L : List Nat)
    (small : ∀ f ∈ L, f < 16 * SQL_API_ODBC3_ALL_FUNCTIONS_SIZE) :
    ∀ {bitmap ids}, Encodes bitmap ids →
      ∃ bitmap', L.foldlM SetFunction bitmap = .ok bitmap' ∧ Encodes bitmap' (ids ++ L) := by
  induction L with
  | nil => exact fun enc => ⟨_, rfl, by simpa using enc⟩
  | cons f L ih =>
    intro bitmap ids enc
    obtain ⟨next, set, enc'⟩ := SetFunction_encodes enc (small f (List.mem_cons_self f L))
    obtain ⟨last, run, enc''⟩ := ih (fun g g_mem => small g (List.mem_cons_of_mem f g_mem)) enc'
    exact ⟨last, by simp [set, run, bind, Except.bind], by simpa using enc''⟩

/-- On a bitmap that encodes `ids`, every id of the range answers its membership. -/
theorem Encodes.SQL_FUNC_EXISTS_eq {bitmap : Bitmap} {ids : List Nat} (enc : Encodes bitmap ids)
    {f : Nat} (small : f < 16 * SQL_API_ODBC3_ALL_FUNCTIONS_SIZE) :
    SQL_FUNC_EXISTS bitmap f = .ok (if f ∈ ids then SQL_TRUE else SQL_FALSE) := by
  obtain ⟨word, h, bit⟩ := enc.word small
  simp [SQL_FUNC_EXISTS_of_getElem? h, bit]

theorem registered_small : ∀ f ∈ registeredFunctions, f < 16 * SQL_API_ODBC3_ALL_FUNCTIONS_SIZE := by
  decide

theorem FillFunctionBitmap_encodes :
    ∃ bitmap, FillFunctionBitmap = .ok bitmap ∧ Encodes bitmap registeredFunctions :=
  foldlM_SetFunction_encodes _ registered_small encodes_zero

/-! ### `SQLGetFunctions` -/

theorem mapM_eq_ok {α β ε : Type} {f : α → Except ε β} (g : α → β) :
    ∀ {l : List α}, (∀ x ∈ l, f x = .ok (g x)) → l.mapM f = .ok (l.map g)
  | [], _ => rfl
  | x :: l, h => by
    rw [List.mapM_cons, h x (List.mem_cons_self x l),
      mapM_eq_ok g fun y mem => h y (List.mem_cons_of_mem x mem)]
    rfl

/-- Testing an answer of `SQL_FUNC_EXISTS` against `SQL_FALSE` gives it back, whether
the false case writes `SQL_FALSE` or leaves the zeroed entry. -/
theorem answer_of_exists (p : Prop) [Decidable p] (z : Nat) (zero : z = SQL_FALSE) :
    (if (if p then SQL_TRUE else SQL_FALSE) ≠ SQL_FALSE then SQL_TRUE else z) =
      if p then SQL_TRUE else SQL_FALSE := by
  by_cases p <;> simp [*, SQL_TRUE, SQL_FALSE]

/-- `SQLGetFunctions` over the bitmap `FillFunctionBitmap` fills: the bitmap itself,
the registered ids below 100, or the one bit the id selects. -/
theorem SQLGetFunctions_of_fill {bitmap : Bitmap} (fill : FillFunctionBitmap = .ok bitmap)
    (enc : Encodes bitmap registeredFunctions) (functionId : SQLUSMALLINT) :
    SQLGetFunctions functionId =
      if functionId.toNat = SQL_API_ODBC3_ALL_FUNCTIONS then .ok (.bitmap bitmap)
      else if functionId.toNat = SQL_API_ALL_FUNCTIONS then
        .ok (.array ((List.range 100).map
          fun i => if i ∈ registeredFunctions then SQL_TRUE else SQL_FALSE))
      else (SQL_FUNC_EXISTS bitmap functionId.toNat).map
        fun e => .single (if e ≠ SQL_FALSE then SQL_TRUE else SQL_FALSE) := by
  unfold SQLGetFunctions
  rw [fill]
  split
  · rfl
  · split
    · simp only [bind, Except.bind]
      rw [mapM_eq_ok (fun i => if i ∈ registeredFunctions then SQL_TRUE else SQL_FALSE)
        fun i mem => ?_]
      · rfl
      · have : i < 16 * SQL_API_ODBC3_ALL_FUNCTIONS_SIZE := by
          simp only [List.mem_range, SQL_API_ODBC3_ALL_FUNCTIONS_SIZE] at *; omega
        simp only [enc.SQL_FUNC_EXISTS_eq this]
        exact congrArg pure (answer_of_exists _ 0 rfl)
    · simp only [bind, Except.bind]
      cases SQL_FUNC_EXISTS bitmap functionId.toNat <;> rfl

/-- Every call of `SQLGetFunctions` either completes or reads past its bitmap, and it
reads past it exactly for the ids from `16 * SQL_API_ODBC3_ALL_FUNCTIONS_SIZE` on: the
single-id query reads word `functionId >> 4` of the local array unchecked. -/
theorem get_functions_faults_iff (functionId : SQLUSMALLINT) (fault : Fault) :
    SQLGetFunctions functionId = .error fault ↔
      fault = .overread ∧ 16 * SQL_API_ODBC3_ALL_FUNCTIONS_SIZE ≤ functionId.toNat := by
  obtain ⟨bitmap, fill, enc⟩ := FillFunctionBitmap_encodes
  rw [SQLGetFunctions_of_fill fill enc]
  split
  · simp [*, SQL_API_ODBC3_ALL_FUNCTIONS, SQL_API_ODBC3_ALL_FUNCTIONS_SIZE]
  · split
    · simp [*, SQL_API_ALL_FUNCTIONS, SQL_API_ODBC3_ALL_FUNCTIONS_SIZE]
    · rw [map_eq_error_iff, SQL_FUNC_EXISTS_eq_error_iff, enc.size, shiftRight_four]
      unfold SQL_API_ODBC3_ALL_FUNCTIONS_SIZE
      exact and_congr_right fun _ => by omega

/-- `SetFunction`'s encoding (word `f >> 4`, bit `f & 15`) and `SQL_FUNC_EXISTS`'s
decoding are inverse over every list of ids in range; so the ODBC 3 bitmap, the
ODBC 2 array and every single-id answer of `SQLGetFunctions` agree with the
registered ids. -/
theorem set_function_exists_inverse (L : List Nat)
    (small : ∀ f ∈ L, f < 16 * SQL_API_ODBC3_ALL_FUNCTIONS_SIZE) :
    (∃ bitmap, L.foldlM SetFunction (List.replicate SQL_API_ODBC3_ALL_FUNCTIONS_SIZE 0) =
        .ok bitmap ∧ ∀ f < 16 * SQL_API_ODBC3_ALL_FUNCTIONS_SIZE,
          SQL_FUNC_EXISTS bitmap f = .ok (if f ∈ L then SQL_TRUE else SQL_FALSE)) ∧
    (∃ words, SQLGetFunctions (.ofNat 16 SQL_API_ODBC3_ALL_FUNCTIONS) = .ok (.bitmap words) ∧
      ∀ f < 16 * SQL_API_ODBC3_ALL_FUNCTIONS_SIZE,
        SQL_FUNC_EXISTS words f = .ok (if f ∈ registeredFunctions then SQL_TRUE else SQL_FALSE)) ∧
    SQLGetFunctions (.ofNat 16 SQL_API_ALL_FUNCTIONS) = .ok (.array ((List.range 100).map
      fun i => if i ∈ registeredFunctions then SQL_TRUE else SQL_FALSE)) ∧
    ∀ functionId : SQLUSMALLINT, functionId.toNat < 16 * SQL_API_ODBC3_ALL_FUNCTIONS_SIZE →
      functionId.toNat ≠ SQL_API_ODBC3_ALL_FUNCTIONS → functionId.toNat ≠ SQL_API_ALL_FUNCTIONS →
      SQLGetFunctions functionId =
        .ok (.single (if functionId.toNat ∈ registeredFunctions then SQL_TRUE else SQL_FALSE)) := by
  obtain ⟨bitmap, fill, enc⟩ := FillFunctionBitmap_encodes
  have answers := SQLGetFunctions_of_fill fill enc
  refine ⟨?_, ⟨bitmap, by rw [answers]; rfl, fun f small => enc.SQL_FUNC_EXISTS_eq small⟩,
    by rw [answers]; rfl, fun functionId small odbc3 odbc2 => ?_⟩
  · obtain ⟨bitmap', run, enc'⟩ := foldlM_SetFunction_encodes L small encodes_zero
    exact ⟨bitmap', run, fun f small => by simpa using enc'.SQL_FUNC_EXISTS_eq small⟩
  · rw [answers, if_neg odbc3, if_neg odbc2, enc.SQL_FUNC_EXISTS_eq small]
    exact congrArg (fun n => Except.ok (Supported.single n)) (answer_of_exists _ _ rfl)

theorem set_function_exists_inverse_on_registered :
    (∀ f ∈ registeredFunctions, f < 16 * SQL_API_ODBC3_ALL_FUNCTIONS_SIZE) ∧
    ∃ bitmap, registeredFunctions.foldlM SetFunction
        (List.replicate SQL_API_ODBC3_ALL_FUNCTIONS_SIZE 0) = .ok bitmap ∧
      ∀ f < 16 * SQL_API_ODBC3_ALL_FUNCTIONS_SIZE,
        SQL_FUNC_EXISTS bitmap f = .ok (if f ∈ registeredFunctions then SQL_TRUE else SQL_FALSE) :=
  ⟨by decide, (set_function_exists_inverse registeredFunctions (by decide)).1⟩

end GizmoSqlOdbc.FunctionBitmap
