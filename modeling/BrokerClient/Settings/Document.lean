import BrokerClient.Json.Reader.Typed
import BrokerClient.Settings

/-!
# Settings as a JSON document

A document holds any of the settings under their names and may hold other fields, or it lists the
settings in order.  What it leaves out keeps its default.
-/

namespace BrokerClient.Settings

/-- The settings that a document has named so far. -/
structure Named where
  url : Option String
  connectionName : Option String
  receiveTimeoutSeconds : Option Nat
  retryBackoffSeconds : Option Nat
  retryMax : Option Nat
  prefetchCount : Option Nat
  deriving Repr, DecidableEq

/-- Nothing is named yet. -/
def Named.none : Named :=
  ⟨.none, .none, .none, .none, .none, .none⟩

/-- The settings with defaults for what is not named. -/
def Named.complete (named : Named) : Settings where
  url := named.url.getD default.url
  connectionName := named.connectionName.getD default.connectionName
  receiveTimeoutSeconds := named.receiveTimeoutSeconds.getD default.receiveTimeoutSeconds
  retryBackoffSeconds := named.retryBackoffSeconds.getD default.retryBackoffSeconds
  retryMax := named.retryMax.getD default.retryMax
  prefetchCount := named.prefetchCount.getD default.prefetchCount

open Json in
/-- Read a number of seconds. -/
def readSeconds : Reader Nat :=
  readUnsigned secondsLimit "u64"

open Json in
/-- Read a number of retries. -/
def readRetries : Reader Nat :=
  readUnsigned retriesLimit "u32"

open Json in
/-- Read a number of messages. -/
def readPrefetch : Reader Nat :=
  readUnsigned prefetchLimit "u16"

open Json in
/-- Read one field of a document. -/
def readField (named : Named) (name : String) : Reader Named := fun octets =>
  match name with
  | "url" => do
      let (value, rest) ← readOnce readString named.url name octets
      .ok ({ named with url := some value }, rest)
  | "connection_name" => do
      let (value, rest) ← readOnce readString named.connectionName name octets
      .ok ({ named with connectionName := some value }, rest)
  | "receive_timeout_secs" => do
      let (value, rest) ← readOnce readSeconds named.receiveTimeoutSeconds name octets
      .ok ({ named with receiveTimeoutSeconds := some value }, rest)
  | "retry_backoff_secs" => do
      let (value, rest) ← readOnce readSeconds named.retryBackoffSeconds name octets
      .ok ({ named with retryBackoffSeconds := some value }, rest)
  | "retry_max" => do
      let (value, rest) ← readOnce readRetries named.retryMax name octets
      .ok ({ named with retryMax := some value }, rest)
  | "prefetch_count" => do
      let (value, rest) ← readOnce readPrefetch named.prefetchCount name octets
      .ok ({ named with prefetchCount := some value }, rest)
  | _ => do
      let (_, rest) ← skipField octets
      .ok (named, rest)

open Json in
/-- Read the fields of a document. -/
def readFields : Reader Settings := fun octets => do
  let (named, rest) ← foldFields readField .none octets
  .ok (named.complete, rest)

open Json in
/-- Read the settings listed in order. -/
def readItems : Reader Settings := fun octets => do
  let (url, octets) ← readNextItem readString true octets
  let (connectionName, octets) ← readNextItem readString false octets
  let (receiveTimeoutSeconds, octets) ← readNextItem readSeconds false octets
  let (retryBackoffSeconds, octets) ← readNextItem readSeconds false octets
  let (retryMax, octets) ← readNextItem readRetries false octets
  let (prefetchCount, octets) ← readNextItem readPrefetch false octets
  let named : Named :=
    { url := url
      connectionName := connectionName
      receiveTimeoutSeconds := receiveTimeoutSeconds
      retryBackoffSeconds := retryBackoffSeconds
      retryMax := retryMax
      prefetchCount := prefetchCount }
  .ok (named.complete, octets)

open Json in
/-- Read settings from a document. -/
def parse (document : List UInt8) : Except Fault Settings :=
  readAll (readStructure "struct AmqpConfigs" readItems readFields) document

end BrokerClient.Settings
