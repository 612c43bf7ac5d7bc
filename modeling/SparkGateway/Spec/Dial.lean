import SparkGateway.Lib.Interleave

/-!
# `SparkGateway.Spec.Dial`: the cache of backend channels

`Dialer` (`crates/proxy/src/dial.rs`) keeps one tonic `Channel` for each backend address and opens
it at the first use. `channel` takes the lock twice, once to look the address up and once to insert
the new channel. Handlers run on many threads, so other calls can come in between. Here `channel` is
the program of these two accesses, with `connect_lazy` between them.

A `Channel` is a handle, and its clones are the same connection. `id` tells the connections apart:
it counts the calls of `connect_lazy`. `Endpoint::from_shared` accepts or refuses a URI. It is a
parameter, and a refusal is the text of tonic's error.
-/

set_option autoImplicit false

namespace SparkGateway.Spec

open SparkGateway.Lib

/-- A lazily connected channel. -/
structure Channel where
  id : ℕ
  uri : String
deriving DecidableEq, Repr

/-- `DialError`. -/
inductive DialError where
  | badUri (addr source : String)
deriving DecidableEq, Repr

/-- The `Display` text of a `DialError`. -/
def DialError.message : DialError → String
  | .badUri addr source => "invalid backend uri " ++ addr ++ ": " ++ source

/-- `ensure_scheme`. -/
def ensureScheme (addr : String) : String :=
  if "http://".toList.isPrefixOf addr.toList || "https://".toList.isPrefixOf addr.toList then addr
  else "http://" ++ addr

/-- The accesses of a call to what is shared. -/
inductive DialCmd where
  /-- `self.inner.lock().get(addr).cloned()`. -/
  | get (addr : String)
  /-- `endpoint.connect_lazy()`. -/
  | connectLazy (uri : String)
  /-- `self.inner.lock().insert(addr, channel)`. -/
  | insert (addr : String) (channel : Channel)

/-- What each access of the channel cache returns. -/
def DialCmd.Reply : DialCmd → Type
  | .get _ => Option Channel
  | .connectLazy _ => Channel
  | .insert _ _ => Unit

/-- The channel cache's accesses, each one atomic step. -/
def DialSig : Sig := ⟨DialCmd, DialCmd.Reply⟩

/-- The cache, and the number of channels opened so far. -/
structure Dialer where
  inner : String → Option Channel
  opened : ℕ

namespace Dialer

/-- `Dialer::new`. -/
def new : Dialer := ⟨fun _ => none, 0⟩

/-- One access. -/
def apply : Handler DialSig Dialer
  | .get addr, d => (d.inner addr, d)
  | .connectLazy uri, d => (⟨d.opened, uri⟩, { d with opened := d.opened + 1 })
  | .insert addr channel, d =>
      ((), { d with inner := Function.update d.inner addr (some channel) })

/-- `Dialer::channel`. -/
def channel (fromShared : String → Except String Unit) (addr : String) :
    Prog DialSig (Except DialError Channel) := do
  match ← Prog.perform (S := DialSig) (.get addr) with
  | some ch => pure (.ok ch)
  | none =>
      match fromShared (ensureScheme addr) with
      | .error source => pure (.error (.badUri addr source))
      | .ok () =>
          let channel ← Prog.perform (S := DialSig) (.connectLazy (ensureScheme addr))
          Prog.perform (S := DialSig) (.insert addr channel)
          pure (.ok channel)

/-- What `SparkConnectProxy::client` reads of the result, the reply to `dial`. -/
def reply (result : Except DialError Channel) : Except String Unit :=
  (result.mapError DialError.message).map fun _ => ()

end Dialer

/-- Calls of one dialer, on any number of threads. -/
def dialSemantics : Semantics DialSig Dialer := .ofHandler Dialer.apply fun _ _ => False

end SparkGateway.Spec
