/-
This file is the pool of connections to a server. It starts with one connection and
grows on demand up to its size. A caller waits exactly when no connection is free and the
pool cannot grow; a connection that is given back goes to the first who waits.
-/

namespace TableGateway.MySql

/-- A pool of connections, with the callers that wait for one. -/
structure Pool where
  maximum : Nat
  size : Nat
  free : Nat
  waiting : List Nat
  deriving DecidableEq, Repr

namespace Pool

/-- A new pool of at most so many connections. -/
def create (maximum : Nat) : Pool :=
  ⟨maximum, min 1 maximum, min 1 maximum, []⟩

/-- Whether a caller has to wait for a connection. -/
def isExhausted (pool : Pool) : Bool :=
  pool.free == 0 && pool.maximum ≤ pool.size

/-- Takes a connection from a pool that is not exhausted. -/
def take (pool : Pool) : Pool :=
  if pool.free = 0 then { pool with size := pool.size + 1 } else { pool with free := pool.free - 1 }

/-- Puts a caller in line. -/
def wait (pool : Pool) (caller : Nat) : Pool :=
  { pool with waiting := pool.waiting ++ [caller] }

/-- Gives a connection back: the first who waits has it, or it is free. -/
def release (pool : Pool) : Option Nat × Pool :=
  match pool.waiting with
  | [] => (none, { pool with free := pool.free + 1 })
  | first :: rest => (some first, { pool with waiting := rest })

/-- How many connections are in use. -/
def inUse (pool : Pool) : Nat :=
  pool.size - pool.free

end Pool

end TableGateway.MySql
