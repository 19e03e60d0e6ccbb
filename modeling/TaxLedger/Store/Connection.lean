import TaxLedger.Failure
import TaxLedger.Store.Table
import TaxLedger.Work

/-!
# Connections

A connection runs statements on the tables. The server may refuse any of them. Within a transaction a
refusal calls off all further statements up to the transaction's end, and the tables go back to what
they were before it. Transactions may stand within each other.
-/

namespace TaxLedger

/-- What a server is asked to do. Transactions within others are numbered from one. -/
inductive Statement where
  | begin
  | commit
  | rollback
  | savepoint (level : Nat)
  | release (level : Nat)
  | rollbackTo (level : Nat)
  | select (table : Store.Table)
  | insert (table : Store.Table)
  | update (table : Store.Table)
  | delete (table : Store.Table)
  /-- Sets up a layout, or the list of layouts. -/
  | create
  | selectLayouts
  | insertLayout
  deriving DecidableEq, Repr, Inhabited

/-- Whether a statement is run although the transaction is called off. -/
def Statement.isAlwaysRun : Statement → Bool
  | .commit | .rollback | .rollbackTo _ => true
  | _ => false

/-- A server that may refuse a statement. -/
class Server (ω : Type) where
  heed : Statement → ω → Option StoreError × ω

instance : Server Unit := ⟨fun _ server => (none, server)⟩

/-- The tables behind a connection, and how far its transactions are. -/
structure Store (ω : Type) where
  tables : Store.Tables := {}
  /-- The number for the next row. It is never given back, not even by a transaction that fails. -/
  nextId : Nat := 0
  /-- What the tables were before each open transaction, the innermost first. -/
  saved : List Store.Tables := []
  /-- Whether the transaction is called off. -/
  isCalledOff : Bool := false
  server : ω

namespace Store

variable {ω α : Type}

/-- The error of a statement in a transaction that is called off. -/
def calledOff : StoreError :=
  .refused "current transaction is aborted, commands ignored until end of transaction block"

/-- A refusal; it calls off the transaction. -/
def refuse (e : StoreError) (s : Store ω) : Except StoreError α × Store ω :=
  (.error e, { s with isCalledOff := !s.saved.isEmpty })

def ask [Server ω] (q : Statement) : Work (Store ω) StoreError Unit :=
  Work.ofFunction fun s =>
    if s.isCalledOff && !q.isAlwaysRun then (.error calledOff, s)
    else
      match Server.heed q s.server with
      | (some e, server) => refuse e { s with server }
      | (none, server) => (.ok (), { s with server })

abbrev Effect (α : Type) : Type := Nat → Tables → Except StoreError (α × Nat × Tables)

def execute [Server ω] (q : Statement) (effect : Effect α) : Work (Store ω) StoreError α := do
  ask q
  Work.ofFunction fun s =>
    match effect s.nextId s.tables with
    | .ok (value, nextId, tables) => (.ok value, { s with nextId, tables })
    | .error e => refuse e s

/-! ### Transactions -/

def start [Server ω] : Work (Store ω) StoreError Unit := do
  let level ← Work.look fun s : Store ω => s.saved.length
  ask (if level = 0 then .begin else .savepoint level)
  Work.change fun s => { s with saved := s.tables :: s.saved }

/-- The store before the innermost transaction. -/
def undone (s : Store ω) : Store ω :=
  match s.saved with
  | [] => s
  | before :: saved => { s with tables := before, saved, isCalledOff := false }

def rollBack [Server ω] : Work (Store ω) StoreError Unit := do
  let level ← Work.look fun s : Store ω => s.saved.length
  let result ← (ask (if level ≤ 1 then .rollback else .rollbackTo (level - 1))).outcome
  Work.change undone
  Work.ofResult result

/-- The store after the innermost transaction. The outermost one is undone if it was called off. -/
def kept (s : Store ω) : Store ω :=
  match s.saved with
  | [] => s
  | [_] => if s.isCalledOff then s.undone else { s with saved := [] }
  | _ :: saved => { s with saved }

def commit [Server ω] : Work (Store ω) StoreError Unit := do
  let level ← Work.look fun s : Store ω => s.saved.length
  ask (if level ≤ 1 then .commit else .release (level - 1))
  Work.change kept

/-- Work on the store as a part of what the program does; its error tells no more. -/
def plainly (w : Work (Store ω) StoreError α) : Work (Store ω) Failure α :=
  w.mapFailure fun e => ⟨[], .store e⟩

def doing (text : String) (w : Work (Store ω) StoreError α) : Work (Store ω) Failure α :=
  w.mapFailure fun e => ⟨[text], .store e⟩

/-- Runs work as one transaction: all of it is kept, or nothing. -/
def transaction [Server ω] (body : Work (Store ω) Failure α) : Work (Store ω) Failure α := do
  plainly start
  match ← body.outcome with
  | .ok value =>
    match ← (plainly commit).outcome with
    | .ok () => return value
    | .error f =>
      let _ ← (plainly rollBack).outcome
      throw f
  | .error f =>
    plainly rollBack
    throw f

/-! ### Rows -/

/-- Puts a row at the end of its table, unless one with its key is there. -/
def place [Stored α] (row : α) : Effect (Option (Numbered α)) := fun nextId tables =>
  if (Stored.rows tables).any fun r => Stored.sameKey r.row row then .ok (none, nextId, tables)
  else if Stored.refersTo tables row then
    let new : Numbered α := ⟨nextId, row⟩
    .ok (some new, nextId + 1, Stored.replaceRows (Stored.rows tables ++ [new]) tables)
  else .error (.refused "insert or update violates foreign key constraint")

def placeAll [Stored α] : List α → Effect Nat
  | [], nextId, tables => .ok (0, nextId, tables)
  | row :: rest, nextId, tables => do
    let (new, nextId, tables) ← place row nextId tables
    let (count, nextId, tables) ← placeAll rest nextId tables
    return (if new.isSome then count + 1 else count, nextId, tables)

/-- Puts a row into its table, or merges it into the one with its key. The number of the row. -/
def mergeIn [Stored α] (merge : α → α → α) (row : α) : Effect Nat := fun nextId tables => do
  let rows : List (Numbered α) := Stored.rows tables
  match rows.find? fun r => Stored.sameKey r.row row with
  | some old =>
    let merged := rows.map fun r => if r.id == old.id then { r with row := merge r.row row } else r
    return (old.id, nextId, Stored.replaceRows merged tables)
  | none =>
    let (_, next, tables) ← place row nextId tables
    return (nextId, next, tables)

variable [Server ω] [Stored α]

def insertNew (row : α) : Work (Store ω) StoreError (Option (Numbered α)) :=
  execute (.insert (Stored.table α)) fun nextId tables => do
    place (← Stored.fit row) nextId tables

/-- Inserts rows in one statement, those whose keys are new; tells how many. -/
def insertAll (rows : List α) : Work (Store ω) StoreError Nat :=
  execute (.insert (Stored.table α)) fun nextId tables => do
    placeAll (← rows.mapM Stored.fit) nextId tables

def insertOrMerge (merge : α → α → α) (row : α) : Work (Store ω) StoreError Nat :=
  execute (.insert (Stored.table α)) fun nextId tables => do
    mergeIn merge (← Stored.fit row) nextId tables

/-- The rows for which `p` holds; the question names texts. -/
def select (texts : List String) (p : α → Bool) : Work (Store ω) StoreError (List (Numbered α)) :=
  execute (.select (Stored.table α)) fun nextId tables => do
    refuseNull texts
    return ((Stored.rows tables).filter fun r => p r.row, nextId, tables)

def update (id : Nat) (f : α → α) : Work (Store ω) StoreError Unit :=
  execute (.update (Stored.table α)) fun nextId tables =>
    let rows := (Stored.rows tables).map fun r => if r.id == id then { r with row := f r.row } else r
    .ok ((), nextId, Stored.replaceRows rows tables)

def deleteWhere (isPicked : Tables → α → Bool) : Work (Store ω) StoreError Nat :=
  execute (.delete (Stored.table α)) fun nextId tables =>
    let rows : List (Numbered α) := Stored.rows tables
    let left := rows.filter fun r => !isPicked tables r.row
    .ok (rows.length - left.length, nextId, Stored.replaceRows left tables)

def getOrInsert (what : String) (row : α) : Work (Store ω) Failure (Numbered α) := do
  match ← doing ("Failed to insert " ++ what) (insertNew row) with
  | some new => return new
  | none =>
    match ← doing ("Failed to query " ++ what) (select [] (Stored.sameKey row)) with
    | found :: _ => return found
    | [] => throw ⟨["Failed to query " ++ what], .store .missingRow⟩

end Store

end TaxLedger
