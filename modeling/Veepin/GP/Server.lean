import Veepin.Core.Maps
import Veepin.Dataplane.AddrPool

/-!
# The GlobalProtect gateway

The model of `internal/gp/server.go`: sessions, the two data paths and the table that routes to
them.  A handler holds the server's lock only for a few lines at a time, so a request is a chain of
critical sections.  `Task` says where a request stands, with the pointers it has taken out of the
tables on the way; `Server.work` is the next critical section (or pool call) of a task.  A run is
any interleaving of them.

`sync.Once` is modelled with the task that is inside it.  `expireSessionsLocked` enters the `Once`
of a session while it holds the server's lock, and `release` takes the lock inside the `Once`: where
the two meet, neither goes on, and the model has no step.
-/

namespace Veepin.GP

/-- `espPeer`, with its identity. -/
structure EspPeer where
  ptr : ℕ
  addr : Bytes
  deriving DecidableEq

/-- `clientLink`: a data path of either kind, with its identity. -/
inductive Link
  | esp (peer : EspPeer)
  | tunnel (ptr : ℕ)
  deriving DecidableEq

/-- The state of a `sync.Once`. -/
inductive Once
  | fresh
  | running (tid : ℕ)
  | done
  deriving DecidableEq

/-- `session`; of its keying block only the SPI under which the client sends. -/
structure Session where
  user : Bytes
  addr : Bytes
  esp : Option UInt32 := none
  expires : ℤ
  releaseOnce : Once := .fresh
  link : Option Link := none

/-- `sessionTTL`, in nanoseconds. -/
def sessionTTL : ℤ := 300 * 10 ^ 9

/-- A request as it comes in; a login has passed `authenticate`. -/
inductive Request
  | login (user : Bytes)
  | getConfig (cookie : Bytes)
  | tunnel (user cookie : Bytes)
  | logout (cookie : Bytes)
  deriving DecidableEq

/-- Where a request stands. -/
inductive Task
  | request (r : Request)
  /-- `handleLogin` has an address. -/
  | store (user addr : Bytes)
  /-- `offerESP` is to look for the socket. -/
  | offer (sess : ℕ)
  /-- `offerESP` has made the keys. -/
  | install (sess : ℕ)
  /-- `runSSLLink` is to put up its link. -/
  | attach (sess : ℕ) (cookie : Bytes)
  /-- `runSSLLink` waits for the end of its link. -/
  | serving (sess : ℕ) (cookie : Bytes) (link : Link)
  | teardown (sess : ℕ) (cookie : Bytes)
  | release (sess : ℕ) (cookie : Bytes)
  /-- `release` is inside the `Once`. -/
  | dropping (sess : ℕ) (cookie : Bytes)
  /-- `release` has taken the session out of the tables. -/
  | returning (sess : ℕ)
  deriving DecidableEq

/-- `Server`, with all sessions ever made, and the requests under way. -/
structure Server where
  noESP : Bool
  pool : AddrPool
  heap : List Session := []
  sessions : AList (fun _ : Bytes => ℕ) := ∅
  links : Bytes → Option Link := fun _ => none
  bySPI : UInt32 → Option EspPeer := fun _ => none
  espConn : Bool := false
  /-- The links made so far. -/
  made : ℕ := 0
  /-- The slots of the gate that are taken. -/
  halfOpen : ℕ := 0
  /-- The sessions for which `Pool.Release` and `gate.Done` have been called, in turn. -/
  given : List ℕ := []
  tasks : ℕ → Option Task := fun _ => none

/-- What a critical section draws or meets: the clock, a cookie, an SPI, and whether that which can
fail before it does not (the gate, the gateway's address, the keys, a write). -/
structure Env where
  now : ℤ := 0
  cookie : Bytes := []
  spi : UInt32 := 0
  ok : Bool := true

def addrKey (ip : Bytes) : Bytes := (to4 ip).getD (if ip.length = 16 then ip else [])

namespace Server

/-- A change of one session. -/
def modify (s : Server) (sid : ℕ) (f : Session → Session) : Server :=
  { s with heap := s.heap.modify sid f }

/-- The keying block of a session is no longer accepted. -/
def dropSPI (s : Server) (spi : Option UInt32) : Server :=
  match spi with
  | none => s
  | some spi => { s with bySPI := Function.update s.bySPI spi none }

/-- The cookie is forgotten if it is the session's. -/
def dropCookie (s : Server) (cookie : Bytes) (sid : ℕ) : Server :=
  if s.sessions.lookup cookie = some sid then { s with sessions := s.sessions.erase cookie } else s

/-- The route to an address is deleted if it is the link given. -/
def dropLink (s : Server) (na : Bytes) (link : Option Link) : Server :=
  if (s.links na).isSome ∧ s.links na = link then
    { s with links := Function.update s.links na none }
  else s

/-- A session gives its address and its slot back. -/
def giveBack (s : Server) (sid : ℕ) (sess : Session) : Server :=
  { s.modify sid ({ · with releaseOnce := .done }) with
    pool := s.pool.release sess.addr
    halfOpen := s.halfOpen - 1
    given := s.given ++ [sid] }

/-! ## Expiry -/

/-- `expireSessionsLocked` at one cookie; `none` if it blocks. -/
def expireAt (now : ℤ) (s : Server) (cookie : Bytes) : Option Server :=
  match s.sessions.lookup cookie with
  | none => some s
  | some sid =>
    match s.heap[sid]? with
    | none => some s
    | some sess =>
      if now < sess.expires ∨ (s.links (addrKey sess.addr)).isSome then some s
      else
        let s := (s.dropCookie cookie sid).dropSPI sess.esp
        match sess.releaseOnce with
        | .fresh => some (s.giveBack sid sess)
        | .running _ => none
        | .done => some s

/-- `expireSessionsLocked`. -/
def expireSessions (s : Server) (now : ℤ) : Option Server :=
  s.sessions.keys.foldlM (expireAt now) s

/-! ## The critical sections -/

/-- The last section of `handleLogin`. -/
def storeSession (s : Server) (env : Env) (user addr : Bytes) : Option Server :=
  (s.expireSessions env.now).map fun s =>
    { s with
      heap := s.heap ++ [{ user, addr, expires := env.now + sessionTTL }]
      sessions := s.sessions.insert env.cookie s.heap.length }

/-- The last section of `offerESP`: nothing says that the session is still in the table. -/
def installESP (s : Server) (sid : ℕ) (sess : Session) (spi : UInt32) : Server :=
  let peer : EspPeer := { ptr := s.made, addr := sess.addr }
  let s := s.dropSPI sess.esp
  let s := { s with bySPI := Function.update s.bySPI spi (some peer), made := s.made + 1 }
  match sess.link with
  | some (.tunnel _) => s.modify sid ({ · with esp := some spi })
  | _ =>
    { s.modify sid ({ · with esp := some spi, link := some (.esp peer) }) with
      links := Function.update s.links (addrKey sess.addr) (some (.esp peer)) }

/-- The first section of `runSSLLink`, for a session that is still in the table. -/
def attachLink (s : Server) (sid : ℕ) (sess : Session) : Server :=
  let s := s.dropSPI sess.esp
  { s.modify sid ({ · with esp := none, link := some (.tunnel s.made) }) with
    links := Function.update s.links (addrKey sess.addr) (some (.tunnel s.made))
    made := s.made + 1 }

/-- The last section of `runSSLLink`. -/
def detachLink (s : Server) (sid : ℕ) (sess : Session) (link : Link) : Server :=
  let s := s.dropLink (addrKey sess.addr) (some link)
  if sess.link = some link then s.modify sid ({ · with link := none }) else s

/-- The section of `teardown`. -/
def teardown (s : Server) (sid : ℕ) (sess : Session) : Server :=
  let s := { s with links := Function.update s.links (addrKey sess.addr) none }
  (s.dropSPI sess.esp).modify sid ({ · with esp := none })

/-- The section of `release`. -/
def dropSession (s : Server) (sid : ℕ) (sess : Session) (cookie : Bytes) : Server :=
  (((s.dropCookie cookie sid).dropSPI sess.esp).dropLink (addrKey sess.addr) sess.link).modify sid
    ({ · with link := none })

/-- The next section of a request that has just come in. -/
def begin (s : Server) (env : Env) : Request → Server × Option Task
  | .login user =>
    if env.ok then
      match s.pool.allocate with
      -- the slot is given back at once
      | none => (s, none)
      | some (addr, pool) => ({ s with pool, halfOpen := s.halfOpen + 1 }, some (.store user addr))
    else (s, none)
  | .getConfig cookie =>
    match s.sessions.lookup cookie with
    | none => (s, none)
    | some sid =>
      (s.modify sid ({ · with expires := env.now + sessionTTL }),
        if s.noESP then none else some (.offer sid))
  | .tunnel user cookie =>
    match s.sessions.lookup cookie with
    | none => (s, none)
    | some sid =>
      if (s.heap[sid]?).any (·.user = user) ∧ env.ok then (s, some (.attach sid cookie))
      else (s, none)
  | .logout cookie =>
    match s.sessions.lookup cookie with
    | none => (s, none)
    | some sid => (s, some (.teardown sid cookie))

/-- The next section of a task: the server afterwards and what is left to do; `none` if it
blocks. -/
def work (s : Server) (tid : ℕ) (env : Env) : Task → Option (Server × Option Task)
  | .request r => some (s.begin env r)
  | .store user addr => (s.storeSession env user addr).map (·, none)
  | .offer sid => some (s, if s.espConn ∧ env.ok then some (.install sid) else none)
  | .install sid => (s.heap[sid]?).map fun sess => (s.installESP sid sess env.spi, none)
  | .attach sid cookie => (s.heap[sid]?).map fun sess =>
    if s.sessions.lookup cookie = some sid then
      (s.attachLink sid sess, some (.serving sid cookie (.tunnel s.made)))
    else (s, none)
  | .serving sid cookie link => (s.heap[sid]?).map fun sess =>
    (s.detachLink sid sess link,
      if sess.link = some link then some (.release sid cookie) else none)
  | .teardown sid cookie => (s.heap[sid]?).map fun sess =>
    (s.teardown sid sess, some (.release sid cookie))
  | .release sid cookie => (s.heap[sid]?).bind fun sess =>
    match sess.releaseOnce with
    | .fresh => some
        (s.modify sid ({ · with releaseOnce := .running tid }), some (.dropping sid cookie))
    | .running _ => none
    | .done => some (s, none)
  | .dropping sid cookie => (s.heap[sid]?).map fun sess =>
    (s.dropSession sid sess cookie, some (.returning sid))
  | .returning sid => (s.heap[sid]?).map fun sess => (s.giveBack sid sess, none)

end Server

/-- What happens next: a request comes in, a task goes on, or the gateway gets its socket. -/
inductive Event
  | arrive (tid : ℕ) (r : Request)
  | advance (tid : ℕ) (env : Env)
  | enableESP

/-- One step. -/
def Server.step (s : Server) : Event → Server
  | .arrive tid r =>
    match s.tasks tid with
    | some _ => s
    | none => { s with tasks := Function.update s.tasks tid (some (.request r)) }
  | .advance tid env =>
    match (s.tasks tid).bind (s.work tid env) with
    | none => s
    | some (s', next) => { s' with tasks := Function.update s'.tasks tid next }
  | .enableESP => { s with espConn := true }

def newServer (noESP : Bool) (pool : AddrPool) : Server := { noESP, pool }

end Veepin.GP
