import TaxLedger.Store.Connection

/-!
# The layout of the store

Before the store is used its tables are set up, once. What has been set up is on a list in the store.
-/

namespace TaxLedger.Store

variable {ω : Type} [Server ω]

def layout : String := "2024-06-01-000000_initial"

/-- The store after a statement that leaves its rows alone. -/
private def unchanged : Effect Unit := fun nextId tables => .ok ((), nextId, tables)

def createTables : Work (Store ω) Failure Unit :=
  (execute .create unchanged).mapFailure fun e =>
    .ofText ("Failed to run " ++ layout ++ " with: " ++ e.message)

def noteLayout : Work (Store ω) Failure Unit :=
  plainly <| execute .insertLayout fun nextId tables =>
    .ok ((), nextId, { tables with layouts := tables.layouts ++ [layout] })

def prepare : Work (Store ω) Failure Unit :=
  Work.mapFailure (fun f => .ofText ("Failed to run database migrations: " ++ f.text)) do
    plainly (execute .create unchanged)
    let done ← plainly (execute .selectLayouts fun nextId tables =>
      .ok (tables.layouts, nextId, tables))
    if !done.contains layout then
      transaction do
        createTables
        noteLayout

end TaxLedger.Store
