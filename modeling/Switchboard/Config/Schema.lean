import Switchboard.Value.Basic

namespace Switchboard

structure ServerSection where
  name : String := "rest-dispatch"
  bindAddress : String := "0.0.0.0:10080"
  baseUrl : String := ""
  keepAlive : Bool := true
  maxContentSize : Nat := 1048576
  deriving DecidableEq, Repr

/-- The execution of handlers: none on the spot, and the limit in milliseconds, none for zero. -/
structure ExecutorSection where
  workerThreads : Nat := 16
  handlerTimeout : Nat := 2000
  deriving DecidableEq, Repr

structure SerializationSection where
  defaultFormat : String := "json"
  deriving DecidableEq, Repr

structure ObservabilitySection where
  logFilter : String := "rest_dispatch=info,tower_http=info"
  jsonLogs : Bool := false
  metricsEnabled : Bool := true
  deriving DecidableEq, Repr

structure Config where
  server : ServerSection := {}
  executor : ExecutorSection := {}
  serialization : SerializationSection := {}
  observability : ObservabilitySection := {}
  deriving DecidableEq, Repr

namespace Config

/-- How the fields of a section are looked up: by name, or by place in a list. A list with `exact`
holds no more than the fields. -/
def fields? (exact : Bool) (names : List String) : Value → Option (String → Option Value)
  | .object fields => some fun name => fields.lookup name
  | .list items =>
    if exact && names.length < items.length then none
    else some fun name => (names.zip items).lookup name
  | _ => none

def field? {α : Type} (read : Value → Option α) (default : α) (value : Option Value) : Option α :=
  match value with
  | none => some default
  | some v => read v

def text? : Value → Option String
  | .text s => some s
  | _ => none

def flag? : Value → Option Bool
  | .bool b => some b
  | _ => none

def size? : Value → Option Nat
  | .number (.integer n) => if 0 ≤ n ∧ n < Nat.pow 2 64 then some n.toNat else none
  | _ => none

def server? (exact : Bool) (v : Value) : Option ServerSection := do
  let get ← fields? exact ["name", "bind_address", "base_url", "keep_alive", "max_content_size"] v
  let default : ServerSection := {}
  let name ← field? text? default.name (get "name")
  let bindAddress ← field? text? default.bindAddress (get "bind_address")
  let baseUrl ← field? text? default.baseUrl (get "base_url")
  let keepAlive ← field? flag? default.keepAlive (get "keep_alive")
  let maxContentSize ← field? size? default.maxContentSize (get "max_content_size")
  some { name, bindAddress, baseUrl, keepAlive, maxContentSize }

def executor? (exact : Bool) (v : Value) : Option ExecutorSection := do
  let get ← fields? exact ["worker_threads", "handler_timeout_ms"] v
  let default : ExecutorSection := {}
  let workerThreads ← field? size? default.workerThreads (get "worker_threads")
  let handlerTimeout ← field? size? default.handlerTimeout (get "handler_timeout_ms")
  some { workerThreads, handlerTimeout }

def serialization? (exact : Bool) (v : Value) : Option SerializationSection := do
  let get ← fields? exact ["default_format"] v
  let default : SerializationSection := {}
  let defaultFormat ← field? text? default.defaultFormat (get "default_format")
  some { defaultFormat }

def observability? (exact : Bool) (v : Value) : Option ObservabilitySection := do
  let get ← fields? exact ["log_filter", "json_logs", "metrics_enabled"] v
  let default : ObservabilitySection := {}
  let logFilter ← field? text? default.logFilter (get "log_filter")
  let jsonLogs ← field? flag? default.jsonLogs (get "json_logs")
  let metricsEnabled ← field? flag? default.metricsEnabled (get "metrics_enabled")
  some { logFilter, jsonLogs, metricsEnabled }

def ofValue? (exact : Bool) (v : Value) : Option Config := do
  let get ← fields? exact ["server", "executor", "serialization", "observability"] v
  let server ← field? (server? exact) {} (get "server")
  let executor ← field? (executor? exact) {} (get "executor")
  let serialization ← field? (serialization? exact) {} (get "serialization")
  let observability ← field? (observability? exact) {} (get "observability")
  some { server, executor, serialization, observability }

def toValue (c : Config) : Value :=
  .ofFields
    [("server", .ofFields
      [("name", .text c.server.name), ("bind_address", .text c.server.bindAddress),
       ("base_url", .text c.server.baseUrl), ("keep_alive", .bool c.server.keepAlive),
       ("max_content_size", .ofNat c.server.maxContentSize)]),
     ("executor", .ofFields
      [("worker_threads", .ofNat c.executor.workerThreads),
       ("handler_timeout_ms", .ofNat c.executor.handlerTimeout)]),
     ("serialization", .ofFields [("default_format", .text c.serialization.defaultFormat)]),
     ("observability", .ofFields
      [("log_filter", .text c.observability.logFilter),
       ("json_logs", .bool c.observability.jsonLogs),
       ("metrics_enabled", .bool c.observability.metricsEnabled)])]

end Config

end Switchboard
