import GizmoSqlOdbc.WideOutput

/-! The handle registry `FreeHandleImpl` acts on, reached from `SQLFreeHandle`,
`SQLFreeStmt(SQL_DROP)`, `SQLFreeEnv` and `SQLFreeConnect`. The registry holds the
live environments, connections, statements and explicit descriptors, and the parent
each object points to. `FreeHandleImpl` runs the release step under
`ExecuteWithDiagnostics` and then drops the handle whatever that returned, and it
deletes an environment unconditionally: so every call on a handle of a known type
removes the handle and everything it owns, and returns the release step's result
(`SQL_SUCCESS` for an environment), except that a descriptor with no owning
connection is never dropped. `AllocHandleImpl` adds a handle under the input handle;
over every run of both, on live input handles, no live handle's parent is gone.

The create and drop helpers and the environment's destructor are not in the sources;
they are taken to do what their names and the comment in `FreeHandleImpl` say:
forgetting the last `shared_ptr` to an object destroys it, with the objects it holds. -/
namespace GizmoSqlOdbc.HandleRegistry
open GizmoSqlOdbc.SqlText GizmoSqlOdbc.WideOutput

/-- `SQL_HANDLE_ENV` of `sql.h`. -/
def SQL_HANDLE_ENV : SQLSMALLINT := 1
/-- `SQL_HANDLE_DBC` of `sql.h`. -/
def SQL_HANDLE_DBC : SQLSMALLINT := 2
/-- `SQL_HANDLE_STMT` of `sql.h`. -/
def SQL_HANDLE_STMT : SQLSMALLINT := 3
/-- `SQL_HANDLE_DESC` of `sql.h`. -/
def SQL_HANDLE_DESC : SQLSMALLINT := 4

/-- A driver handle: its kind and its address. -/
inductive Handle where
  | env (id : Nat)
  | conn (id : Nat)
  | stmt (id : Nat)
  | desc (id : Nat)
  deriving DecidableEq, Repr

/-- The handle type a caller passes with the handle. -/
def Handle.handleType : Handle → SQLSMALLINT
  | .env _ => SQL_HANDLE_ENV
  | .conn _ => SQL_HANDLE_DBC
  | .stmt _ => SQL_HANDLE_STMT
  | .desc _ => SQL_HANDLE_DESC

/-- The address a caller passes. -/
def Handle.id : Handle → Nat
  | .env h | .conn h | .stmt h | .desc h => h

/-- The live objects of each kind, and the parent each points to:
`conn->GetEnvironment()`, `stmt->GetConnection()` and `desc->GetOwningConnection()`. -/
structure Registry where
  envs : List Nat
  conns : List Nat
  stmts : List Nat
  descs : List Nat
  envOf : Nat → Nat
  connOf : Nat → Nat
  ownerOf : Nat → Option Nat

namespace Registry

/-- Modelled from the spec: `ODBCConnection::dropStatement`, not in the sources. The
comment in `FreeHandleImpl` says it erases the last `shared_ptr` to the statement,
which destroys it. -/
def dropStatement (r : Registry) (stmt : Nat) : Registry :=
  { r with stmts := r.stmts.filter (· ≠ stmt) }

/-- Modelled from the spec: `ODBCConnection::dropDescriptor`, not in the sources: the
owning connection forgets the descriptor, which destroys it. -/
def dropDescriptor (r : Registry) (desc : Nat) : Registry :=
  { r with descs := r.descs.filter (· ≠ desc) }

/-- Modelled from the spec: `ODBCEnvironment::DropConnection`, not in the sources: the
environment forgets the connection, which destroys it with the statements and
descriptors it holds. -/
def DropConnection (r : Registry) (conn : Nat) : Registry :=
  { r with
    conns := r.conns.filter (· ≠ conn)
    stmts := r.stmts.filter (r.connOf · ≠ conn)
    descs := r.descs.filter (r.ownerOf · ≠ some conn) }

/-- Modelled from the spec: `delete env`, whose destructor is not in the sources:
destroying the environment destroys the connections it holds, and with them their
statements and descriptors. -/
def deleteEnv (r : Registry) (env : Nat) : Registry :=
  { r with
    envs := r.envs.filter (· ≠ env)
    conns := r.conns.filter (r.envOf · ≠ env)
    stmts := r.stmts.filter fun s => r.envOf (r.connOf s) ≠ env
    descs := r.descs.filter fun d => (r.ownerOf d).all (r.envOf · ≠ env) }

/-- Modelled from the spec: the `ODBCEnvironment` that `new` builds, not in the
sources: a new environment at `fresh`. -/
def addEnvironment (r : Registry) (fresh : Nat) : Registry :=
  { r with envs := r.envs ++ [fresh] }

/-- Modelled from the spec: `ODBCEnvironment::CreateConnection`, not in the sources: a
new connection at `fresh`, held by `env`. -/
def CreateConnection (r : Registry) (env fresh : Nat) : Registry :=
  { r with
    conns := r.conns ++ [fresh]
    envOf := fun c => if c = fresh then env else r.envOf c }

/-- Modelled from the spec: `ODBCConnection::createStatement`, not in the sources: a
new statement at `fresh`, held by `conn`. -/
def createStatement (r : Registry) (conn fresh : Nat) : Registry :=
  { r with
    stmts := r.stmts ++ [fresh]
    connOf := fun s => if s = fresh then conn else r.connOf s }

/-- Modelled from the spec: `ODBCConnection::createDescriptor`, not in the sources: a
new explicit descriptor at `fresh`, owned by `conn`. -/
def createDescriptor (r : Registry) (conn fresh : Nat) : Registry :=
  { r with
    descs := r.descs ++ [fresh]
    ownerOf := fun d => if d = fresh then some conn else r.ownerOf d }

end Registry

/-- `AllocHandleImpl`: the code, the handle written through `outputHandle` (`none`
where nothing is written), and the registry. `fresh` is the address of the new
object; `inputHandle` is the environment a connection is made in, or the connection a
statement or descriptor is made on. The create steps run under
`ExecuteWithDiagnostics`, which returns the body's `SQL_SUCCESS`. -/
def AllocHandleImpl (handleType : SQLSMALLINT) (inputHandle fresh : Nat) (r : Registry) :
    SQLRETURN × Option Nat × Registry :=
  if handleType = SQL_HANDLE_ENV then (.SQL_SUCCESS, some fresh, r.addEnvironment fresh)
  else if handleType = SQL_HANDLE_DBC then
    (.SQL_SUCCESS, some fresh, r.CreateConnection inputHandle fresh)
  else if handleType = SQL_HANDLE_STMT then
    (.SQL_SUCCESS, some fresh, r.createStatement inputHandle fresh)
  else if handleType = SQL_HANDLE_DESC then
    (.SQL_SUCCESS, some fresh, r.createDescriptor inputHandle fresh)
  else (.SQL_ERROR, none, r)

/-- `SQLAllocHandle`. -/
def SQLAllocHandle (handleType : SQLSMALLINT) (inputHandle fresh : Nat) (r : Registry) :
    SQLRETURN × Option Nat × Registry :=
  AllocHandleImpl handleType inputHandle fresh r

/-- `SQLAllocEnv`: the input handle is `SQL_NULL_HANDLE`. -/
def SQLAllocEnv (fresh : Nat) (r : Registry) : SQLRETURN × Option Nat × Registry :=
  AllocHandleImpl SQL_HANDLE_ENV 0 fresh r

/-- `SQLAllocConnect`. -/
def SQLAllocConnect (hEnv fresh : Nat) (r : Registry) : SQLRETURN × Option Nat × Registry :=
  AllocHandleImpl SQL_HANDLE_DBC hEnv fresh r

/-- `SQLAllocStmt`. -/
def SQLAllocStmt (hDbc fresh : Nat) (r : Registry) : SQLRETURN × Option Nat × Registry :=
  AllocHandleImpl SQL_HANDLE_STMT hDbc fresh r

/-- `FreeHandleImpl`. `release` is what `ExecuteWithDiagnostics` returns around the
release step (`releaseConnection`, `releaseStatement` or `ReleaseDescriptor`); the drop
after it runs whatever that was. -/
def FreeHandleImpl (handleType : SQLSMALLINT) (handle : Option Nat) (release : SQLRETURN)
    (r : Registry) : SQLRETURN × Registry :=
  match handle with
  | none => (.SQL_INVALID_HANDLE, r)
  | some h =>
    if handleType = SQL_HANDLE_ENV then (.SQL_SUCCESS, r.deleteEnv h)
    else if handleType = SQL_HANDLE_DBC then (release, r.DropConnection h)
    else if handleType = SQL_HANDLE_STMT then (release, r.dropStatement h)
    else if handleType = SQL_HANDLE_DESC then
      (release, match r.ownerOf h with
        | some _ => r.dropDescriptor h
        | none => r)
    else (.SQL_ERROR, r)

/-- `SQLFreeHandle`. -/
def SQLFreeHandle (handleType : SQLSMALLINT) (handle : Option Nat) (release : SQLRETURN)
    (r : Registry) : SQLRETURN × Registry :=
  FreeHandleImpl handleType handle release r

/-- `SQLFreeEnv`: no release step runs for an environment. -/
def SQLFreeEnv (hEnv : Option Nat) (release : SQLRETURN) (r : Registry) : SQLRETURN × Registry :=
  FreeHandleImpl SQL_HANDLE_ENV hEnv release r

/-- `SQLFreeConnect`. -/
def SQLFreeConnect (hDbc : Option Nat) (release : SQLRETURN) (r : Registry) :
    SQLRETURN × Registry :=
  FreeHandleImpl SQL_HANDLE_DBC hDbc release r

/-- `SQL_CLOSE` of `sql.h`. -/
def SQL_CLOSE : BitVec 16 := 0
/-- `SQL_DROP` of `sql.h`. -/
def SQL_DROP : BitVec 16 := 1
/-- `SQL_UNBIND` of `sql.h`. -/
def SQL_UNBIND : BitVec 16 := 2
/-- `SQL_RESET_PARAMS` of `sql.h`. -/
def SQL_RESET_PARAMS : BitVec 16 := 3

/-- `SQLFreeStmt`. `closed` is what `ExecuteWithDiagnostics` returns around
`closeCursor`; closing the cursor and clearing the ARD's records leave the registry
as it is. -/
def SQLFreeStmt (hStmt : Option Nat) (option : BitVec 16) (closed release : SQLRETURN)
    (r : Registry) : SQLRETURN × Registry :=
  if option = SQL_CLOSE then (closed, r)
  else if option = SQL_UNBIND then (if hStmt.isNone then .SQL_INVALID_HANDLE else .SQL_SUCCESS, r)
  else if option = SQL_RESET_PARAMS then (.SQL_SUCCESS, r)
  else if option = SQL_DROP then FreeHandleImpl SQL_HANDLE_STMT hStmt release r
  else (.SQL_ERROR, r)

/-! ### Ownership -/

namespace Registry

/-- The handle a handle points to: a connection's environment, a statement's
connection, a descriptor's owning connection. -/
def parent (r : Registry) : Handle → Option Handle
  | .env _ => none
  | .conn c => some (.env (r.envOf c))
  | .stmt s => some (.conn (r.connOf s))
  | .desc d => (r.ownerOf d).map .conn

/-- `h` owns `x`: `x` is `h`, a child of `h` or a grandchild; environments hold
connections, which hold statements and descriptors. -/
def owns (r : Registry) (h x : Handle) : Bool :=
  decide (x = h) || decide (r.parent x = some h) || decide ((r.parent x).bind r.parent = some h)

/-- The handle is live in the registry. -/
def live (r : Registry) : Handle → Bool
  | .env e => decide (e ∈ r.envs)
  | .conn c => decide (c ∈ r.conns)
  | .stmt s => decide (s ∈ r.stmts)
  | .desc d => decide (d ∈ r.descs)

/-- The registry keeping only the handles `keep` keeps, every parent link as it was. -/
def restrict (r : Registry) (keep : Handle → Bool) : Registry :=
  { r with
    envs := r.envs.filter (keep <| .env ·)
    conns := r.conns.filter (keep <| .conn ·)
    stmts := r.stmts.filter (keep <| .stmt ·)
    descs := r.descs.filter (keep <| .desc ·) }

/-- A descriptor with no owning connection: `FreeHandleImpl` drops nothing for it. -/
def ownerless (r : Registry) : Handle → Bool
  | .desc d => (r.ownerOf d).isNone
  | _ => false

@[simp] theorem parent_env (r : Registry) (e : Nat) : r.parent (.env e) = none := rfl

@[simp] theorem parent_conn (r : Registry) (c : Nat) :
    r.parent (.conn c) = some (.env (r.envOf c)) := rfl

@[simp] theorem parent_stmt (r : Registry) (s : Nat) :
    r.parent (.stmt s) = some (.conn (r.connOf s)) := rfl

@[simp] theorem parent_desc (r : Registry) (d : Nat) : r.parent (.desc d) = (r.ownerOf d).map .conn :=
  rfl

/-- A descriptor's grandparent is its owning connection's environment. -/
@[simp] theorem map_conn_bind_parent (r : Registry) (owner : Option Nat) :
    (owner.map Handle.conn).bind r.parent = owner.map fun c => .env (r.envOf c) := by
  cases owner <;> rfl

/-! Each drop removes exactly what the handle owns. -/

theorem deleteEnv_eq_restrict (r : Registry) (e : Nat) :
    r.deleteEnv e = r.restrict fun y => !r.owns (.env e) y := by
  have descs : ∀ d, (r.ownerOf d).all (r.envOf · ≠ e) = !r.owns (.env e) (.desc d) := by
    intro d; cases h : r.ownerOf d <;> simp [owns, h]
  simp only [deleteEnv, restrict, descs]
  simp [owns]

theorem DropConnection_eq_restrict (r : Registry) (c : Nat) :
    r.DropConnection c = r.restrict fun y => !r.owns (.conn c) y := by
  simp [DropConnection, restrict, owns]

theorem dropStatement_eq_restrict (r : Registry) (s : Nat) :
    r.dropStatement s = r.restrict fun y => !r.owns (.stmt s) y := by
  simp [dropStatement, restrict, owns]

theorem dropDescriptor_eq_restrict (r : Registry) (d : Nat) :
    r.dropDescriptor d = r.restrict fun y => !r.owns (.desc d) y := by
  simp [dropDescriptor, restrict, owns]

end Registry

open Registry

/-- **`FreeHandleImpl` frees what the handle owns, whatever the release step did.**
For every registry, every handle of a known type and every outcome of the release
step, the call removes the handle and everything it owns, keeps every other handle
with its links, and returns the release step's result (`SQL_SUCCESS` for an
environment, whatever it still holds). A descriptor with no owning connection is the
one handle it leaves in place. -/
theorem free_handle_drops_what_it_owns (r : Registry) (x : Handle) (release : SQLRETURN) :
    FreeHandleImpl x.handleType (some x.id) release r =
      (if x.handleType = SQL_HANDLE_ENV then .SQL_SUCCESS else release,
        if r.ownerless x then r else r.restrict fun y => !r.owns x y) := by
  have distinct : SQL_HANDLE_DBC ≠ SQL_HANDLE_ENV ∧ SQL_HANDLE_STMT ≠ SQL_HANDLE_ENV ∧
      SQL_HANDLE_STMT ≠ SQL_HANDLE_DBC ∧ SQL_HANDLE_DESC ≠ SQL_HANDLE_ENV ∧
      SQL_HANDLE_DESC ≠ SQL_HANDLE_DBC ∧ SQL_HANDLE_DESC ≠ SQL_HANDLE_STMT := by decide
  cases x with
  | env e => simp [FreeHandleImpl, Handle.handleType, Handle.id, ownerless, deleteEnv_eq_restrict]
  | conn c =>
    simp [FreeHandleImpl, Handle.handleType, Handle.id, ownerless, distinct,
      DropConnection_eq_restrict]
  | stmt s =>
    simp [FreeHandleImpl, Handle.handleType, Handle.id, ownerless, distinct,
      dropStatement_eq_restrict]
  | desc d =>
    cases h : r.ownerOf d <;> simp [FreeHandleImpl, Handle.handleType, Handle.id, ownerless, h,
      distinct, dropDescriptor_eq_restrict]

/-- An environment that still holds a connection, which holds a statement, is freed
with `SQL_SUCCESS` and takes both with it; a connection whose release step failed is
dropped all the same while the call returns `SQL_ERROR`. -/
theorem free_env_with_connection_succeeds :
    (SQLFreeEnv (some 1) .SQL_SUCCESS ⟨[1], [2], [3], [], fun _ => 1, fun _ => 2, fun _ => none⟩).1 =
        .SQL_SUCCESS ∧
      (SQLFreeEnv (some 1) .SQL_SUCCESS
        ⟨[1], [2], [3], [], fun _ => 1, fun _ => 2, fun _ => none⟩).2.conns = [] ∧
      (SQLFreeConnect (some 2) .SQL_ERROR
        ⟨[1], [2], [3], [], fun _ => 1, fun _ => 2, fun _ => none⟩).1 = .SQL_ERROR ∧
      (SQLFreeConnect (some 2) .SQL_ERROR
        ⟨[1], [2], [3], [], fun _ => 1, fun _ => 2, fun _ => none⟩).2.conns = [] := by
  decide

/-! ### No dangling parent over a run of allocations and frees -/

namespace Registry

/-- Every live handle's parent is live: no statement or descriptor outlives its
connection, and no connection its environment. -/
def WF (r : Registry) : Prop :=
  ∀ x, r.live x → ∀ p ∈ r.parent x, r.live p

@[simp] theorem live_restrict (r : Registry) (keep : Handle → Bool) (y : Handle) :
    (r.restrict keep).live y = (r.live y && keep y) := by
  cases y <;> simp [live, restrict]

@[simp] theorem parent_restrict (r : Registry) (keep : Handle → Bool) :
    (r.restrict keep).parent = r.parent := rfl

/-- What owns a handle's parent owns the handle. -/
theorem owns_of_parent {r : Registry} {x y p : Handle} (up : r.parent y = some p)
    (own : r.owns x p) : r.owns x y := by
  cases y with
  | env e => cases up
  | conn c => cases up; simp_all [owns]
  | stmt s => cases up; simp_all [owns]; tauto
  | desc d =>
    obtain ⟨c, owner, rfl⟩ := Option.map_eq_some'.mp up
    simp_all [owns]; tauto

/-- Keeping a set of handles closed under parents keeps the registry well formed. -/
theorem WF.restrict {r : Registry} (wf : r.WF) {keep : Handle → Bool}
    (closed : ∀ y p, r.parent y = some p → keep y → keep p) : (r.restrict keep).WF := by
  intro y live_y p up
  simp only [live_restrict, parent_restrict, Bool.and_eq_true] at live_y up ⊢
  exact ⟨wf y live_y.1 p up, closed y p up live_y.2⟩

theorem WF.restrict_owns {r : Registry} (wf : r.WF) (x : Handle) :
    (r.restrict fun y => !r.owns x y).WF :=
  wf.restrict fun y p up keep => by
    simp only [Bool.not_eq_true'] at keep ⊢
    cases own : r.owns x p
    · rfl
    · exact absurd (owns_of_parent up own) (by simp [keep])

end Registry

/-- Every `FreeHandleImpl` call keeps the registry well formed. -/
theorem FreeHandleImpl_wf {r : Registry} (wf : r.WF) (handleType : SQLSMALLINT)
    (handle : Option Nat) (release : SQLRETURN) : (FreeHandleImpl handleType handle release r).2.WF := by
  rcases handle with _ | h
  · exact wf
  dsimp only [FreeHandleImpl]
  split_ifs
  · simpa only [deleteEnv_eq_restrict] using wf.restrict_owns (.env h)
  · simpa only [DropConnection_eq_restrict] using wf.restrict_owns (.conn h)
  · simpa only [dropStatement_eq_restrict] using wf.restrict_owns (.stmt h)
  · cases r.ownerOf h
    · exact wf
    · simpa only [dropDescriptor_eq_restrict] using wf.restrict_owns (.desc h)
  · exact wf

namespace Registry

/-- A registry that gains the handle `new`, whose parent is live, and keeps every other
handle with its parent link stays well formed. -/
theorem WF.extend {r r' : Registry} (wf : r.WF) (new : Handle)
    (live' : ∀ y, r'.live y = (r.live y || decide (y = new)))
    (parent' : ∀ y, y ≠ new → r'.parent y = r.parent y)
    (up : ∀ p ∈ r'.parent new, r.live p) : r'.WF := by
  have grow : ∀ z, r.live z → r'.live z := fun z h => by simp [live', h]
  intro y live_y p py
  by_cases fresh : y = new
  · subst fresh
    exact grow p (up p py)
  · simp only [live', fresh, decide_False, Bool.or_false] at live_y
    exact grow p (wf y live_y p (parent' y fresh ▸ py))

theorem WF.addEnvironment {r : Registry} (wf : r.WF) (fresh : Nat) :
    (r.addEnvironment fresh).WF :=
  wf.extend (.env fresh) (fun y => by cases y <;> simp [live, Registry.addEnvironment])
    (fun _ _ => rfl) (by simp)

theorem WF.CreateConnection {r : Registry} (wf : r.WF) {env : Nat} (live_env : r.live (.env env))
    (fresh : Nat) : (r.CreateConnection env fresh).WF :=
  wf.extend (.conn fresh) (fun y => by cases y <;> simp [live, Registry.CreateConnection])
    (fun y ne => by cases y <;> simp_all [Registry.CreateConnection]) (by simpa [Registry.CreateConnection])

theorem WF.createStatement {r : Registry} (wf : r.WF) {conn : Nat}
    (live_conn : r.live (.conn conn)) (fresh : Nat) : (r.createStatement conn fresh).WF :=
  wf.extend (.stmt fresh) (fun y => by cases y <;> simp [live, Registry.createStatement])
    (fun y ne => by cases y <;> simp_all [Registry.createStatement]) (by simpa [Registry.createStatement])

theorem WF.createDescriptor {r : Registry} (wf : r.WF) {conn : Nat}
    (live_conn : r.live (.conn conn)) (fresh : Nat) : (r.createDescriptor conn fresh).WF :=
  wf.extend (.desc fresh) (fun y => by cases y <;> simp [live, Registry.createDescriptor])
    (fun y ne => by cases y <;> simp_all [Registry.createDescriptor]) (by simpa [Registry.createDescriptor])

/-- The input handle of an allocation is live and of the kind the new handle's parent
has: an environment for a connection, a connection for a statement or descriptor. -/
def inputLive (r : Registry) (handleType : SQLSMALLINT) (inputHandle : Nat) : Bool :=
  if handleType = SQL_HANDLE_ENV then true
  else if handleType = SQL_HANDLE_DBC then r.live (.env inputHandle)
  else if handleType = SQL_HANDLE_STMT then r.live (.conn inputHandle)
  else if handleType = SQL_HANDLE_DESC then r.live (.conn inputHandle)
  else true

end Registry

/-- Every `AllocHandleImpl` call on a live input handle keeps the registry well formed. -/
theorem AllocHandleImpl_wf {r : Registry} (wf : r.WF) (handleType : SQLSMALLINT)
    (inputHandle fresh : Nat) (input : r.inputLive handleType inputHandle) :
    (AllocHandleImpl handleType inputHandle fresh r).2.2.WF := by
  unfold AllocHandleImpl Registry.inputLive at *
  split_ifs at input ⊢
  · exact wf.addEnvironment fresh
  · exact wf.CreateConnection input fresh
  · exact wf.createStatement input fresh
  · exact wf.createDescriptor input fresh
  · exact wf

/-- A call of the handle life cycle: `AllocHandleImpl` with its handle type, input
handle and the new object's address, or `FreeHandleImpl` with its handle type, handle
and the outcome of its release step. -/
inductive Call where
  | alloc (handleType : SQLSMALLINT) (inputHandle fresh : Nat)
  | free (handleType : SQLSMALLINT) (handle : Option Nat) (release : SQLRETURN)
  deriving DecidableEq, Repr

/-- The registry after one call. -/
def Call.run (r : Registry) : Call → Registry
  | .alloc handleType inputHandle fresh => (AllocHandleImpl handleType inputHandle fresh r).2.2
  | .free handleType handle release => (FreeHandleImpl handleType handle release r).2

/-- The registry after a run of calls. -/
def runCalls : List Call → Registry → Registry
  | [], r => r
  | call :: calls, r => runCalls calls (Call.run r call)

/-- An allocation's input handle is live; a free may be called on any handle. -/
def Call.allowed (r : Registry) : Call → Bool
  | .alloc handleType inputHandle _ => r.inputLive handleType inputHandle
  | .free .. => true

/-- Every call of the run is allowed in the registry the calls before it left. -/
def allowedRun : List Call → Registry → Bool
  | [], _ => true
  | call :: calls, r => call.allowed r && allowedRun calls (Call.run r call)

/-- The registry before any handle is allocated. -/
def Registry.empty : Registry :=
  ⟨[], [], [], [], fun _ => 0, fun _ => 0, fun _ => none⟩

theorem Registry.WF_empty : Registry.empty.WF := by
  intro x live_x
  cases x <;> simp [live, Registry.empty] at live_x

theorem Call.run_wf {r : Registry} (wf : r.WF) (call : Call) (ok : call.allowed r) :
    (Call.run r call).WF := by
  cases call with
  | alloc handleType inputHandle fresh => exact AllocHandleImpl_wf wf handleType inputHandle fresh ok
  | free handleType handle release => exact FreeHandleImpl_wf wf handleType handle release

/-- **No dangling parent over any run of the handle life cycle.** From a registry where
every live handle's parent is live, every run of `AllocHandleImpl` and `FreeHandleImpl`
calls keeps it so, whatever the handle types, the addresses and the release outcomes,
as long as each allocation is made on a live handle of its parent's kind. -/
theorem handle_run_keeps_parents_live (calls : List Call) {r : Registry} (wf : r.WF)
    (allowed : allowedRun calls r) : (runCalls calls r).WF := by
  induction calls generalizing r with
  | nil => exact wf
  | cons call calls ih =>
    simp only [allowedRun, Bool.and_eq_true] at allowed
    exact ih (Call.run_wf wf call allowed.1) allowed.2

theorem handle_run_from_empty_registry :
    allowedRun [.alloc SQL_HANDLE_ENV 0 1, .alloc SQL_HANDLE_DBC 1 2, .alloc SQL_HANDLE_STMT 2 3,
        .alloc SQL_HANDLE_DESC 2 4, .free SQL_HANDLE_STMT (some 3) .SQL_ERROR,
        .free SQL_HANDLE_ENV (some 1) .SQL_SUCCESS, .alloc SQL_HANDLE_ENV 0 5]
        Registry.empty ∧
      (runCalls [.alloc SQL_HANDLE_ENV 0 1, .alloc SQL_HANDLE_DBC 1 2, .alloc SQL_HANDLE_STMT 2 3,
        .alloc SQL_HANDLE_DESC 2 4, .free SQL_HANDLE_STMT (some 3) .SQL_ERROR,
        .free SQL_HANDLE_ENV (some 1) .SQL_SUCCESS, .alloc SQL_HANDLE_ENV 0 5]
        Registry.empty).WF :=
  ⟨by decide, handle_run_keeps_parents_live _ Registry.WF_empty (by decide)⟩

end GizmoSqlOdbc.HandleRegistry
