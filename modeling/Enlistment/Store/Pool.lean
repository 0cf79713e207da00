import Enlistment.Store.Error

/-!
The connections to a store. Idle connections wait in a queue, and the one that waited longest is
handed out first. When none is idle a new one is opened, so nobody waits; a connection that finds
the queue full when it comes back is closed. A pool that was shut down hands out nothing more, and
closes what comes back.
-/

namespace Enlistment

structure Connection where
  number : Nat
deriving DecidableEq

structure PoolSizes where
  initial : Nat
  maxIdle : Nat
deriving DecidableEq

structure Pool where
  capacity : Nat
  idle : List Connection
  opened : Nat
  isShutDown : Bool
deriving DecidableEq

namespace Pool

def capacityOf (sizes : PoolSizes) : Nat :=
  max (max sizes.maxIdle sizes.initial) 1

def start (sizes : PoolSizes) : Pool :=
  let count := max sizes.initial 1
  ⟨capacityOf sizes, (List.range count).map Connection.mk, count, false⟩

def acquire (pool : Pool) : Except DatabaseError (Connection × Pool) :=
  if pool.isShutDown then .error .shutDown
  else
    match pool.idle with
    | connection :: rest => .ok (connection, { pool with idle := rest })
    | [] => .ok (⟨pool.opened⟩, { pool with opened := pool.opened + 1 })

def drainIdle (pool : Pool) : Pool :=
  { pool with idle := [] }

def release (connection : Connection) (pool : Pool) : Pool :=
  if pool.isShutDown then pool
  else if pool.idle.length < pool.capacity then
    let returned := { pool with idle := pool.idle ++ [connection] }
    -- a shutdown may have drained the queue before this one came back
    if returned.isShutDown then returned.drainIdle else returned
  else pool

def shutDown (pool : Pool) : Pool :=
  { pool with idle := [], isShutDown := true }

end Pool

end Enlistment
