import Enlistment.Store.Pool
import Enlistment.Store.Tables

/-!
An open store: its tables, and the connections through which they are reached. Every statement
borrows a connection and gives it back, so after the pool is shut down the tables cannot be reached.
-/

namespace Enlistment

structure Database where
  tables : Tables
  pool : Pool
deriving DecidableEq

namespace Database

def openOn (sizes : PoolSizes) (tables : Tables) : Except DatabaseError Database := do
  pure ⟨← tables.bringUpToDate, Pool.start sizes⟩

def run {Answer : Type} (statement : Tables → Except DatabaseError (Answer × Tables))
    (database : Database) : Except DatabaseError Answer × Database :=
  match database.pool.acquire with
  | .error error => (.error error, database)
  | .ok (connection, pool) =>
      match statement database.tables with
      | .error error => (.error error, { database with pool := pool.release connection })
      | .ok (answer, tables) => (.ok answer, ⟨tables, pool.release connection⟩)

def query {Answer : Type} (statement : Tables → Except DatabaseError Answer)
    (database : Database) : Except DatabaseError Answer × Database :=
  database.run fun tables => (statement tables).map (·, tables)

def update (change : Tables → Tables) (database : Database) :
    Except DatabaseError Unit × Database :=
  database.run fun tables => .ok ((), change tables)

def isShutDown (database : Database) : Bool :=
  database.pool.isShutDown

def shutDown (database : Database) : Database :=
  { database with pool := database.pool.shutDown }

def schemaVersion (database : Database) : Except DatabaseError Int × Database :=
  database.query fun tables => .ok tables.version

end Database

end Enlistment
