import Switchboard.Config.Schema
import Switchboard.Config.WebAddress
import Switchboard.Text.Blank
import Switchboard.Toml.Reader

namespace Switchboard

inductive ConfigFault where
  | bindAddress (given : String)
  | baseUrl (given : String)
  | noContent
  | timeoutTooLong
  | tooManyWorkers
  | blankFormat
  | blankFilter
  deriving DecidableEq, Repr

namespace Config

def greatestTimeout : Nat := 600000

def greatestWorkers : Nat := 4096

end Config

namespace ConfigFault

def field : ConfigFault → String
  | bindAddress _ => "server.bind_address"
  | baseUrl _ => "server.base_url"
  | noContent => "server.max_content_size"
  | timeoutTooLong => "executor.handler_timeout_ms"
  | tooManyWorkers => "executor.worker_threads"
  | blankFormat => "serialization.default_format"
  | blankFilter => "observability.log_filter"

def message : ConfigFault → String
  | bindAddress given => "'" ++ given ++ "' is not a socket address"
  | baseUrl given => "'" ++ given ++ "' must be empty, a path or an http(s) URL"
  | noContent => "must be greater than zero"
  | timeoutTooLong => "must not exceed " ++ toString Config.greatestTimeout ++ " ms"
  | tooManyWorkers => "must not exceed " ++ toString Config.greatestWorkers
  | blankFormat => "must not be empty"
  | blankFilter => "must not be empty"

def text (f : ConfigFault) : String := f.field ++ ": " ++ f.message

end ConfigFault

inductive ConfigError where
  | missingFile
  | notUtf8
  | malformed
  | invalid (faults : List ConfigFault)
  deriving DecidableEq, Repr

def ConfigFault.summary (faults : List ConfigFault) : String :=
  "Validation failed: " ++ ", ".intercalate (faults.map text)

namespace Config

def require (condition : Bool) (fault : ConfigFault) : List ConfigFault :=
  if condition then [] else [fault]

def isBaseUrl (s : String) : Bool :=
  s.isEmpty || s.toList.head? == some '/' || WebAddress.isValid s

def faults (c : Config) : List ConfigFault :=
  require (Address.ofString? c.server.bindAddress).isSome (.bindAddress c.server.bindAddress) ++
  require (isBaseUrl c.server.baseUrl) (.baseUrl c.server.baseUrl) ++
  require (0 < c.server.maxContentSize) .noContent ++
  require (c.executor.handlerTimeout ≤ greatestTimeout) .timeoutTooLong ++
  require (c.executor.workerThreads ≤ greatestWorkers) .tooManyWorkers ++
  require (Text.trim c.serialization.defaultFormat ≠ "") .blankFormat ++
  require (Text.trim c.observability.logFilter ≠ "") .blankFilter

def validate (c : Config) : Except (List ConfigFault) Unit :=
  match c.faults with
  | [] => .ok ()
  | faults => .error faults

def parse (s : String) : Except ConfigError Config :=
  match (Toml.read? s).bind (ofValue? false) with
  | none => .error .malformed
  | some c =>
    match c.validate with
    | .ok () => .ok c
    | .error faults => .error (.invalid faults)

/-- The configuration in a file with these octets; nothing for a file that does not exist. -/
def load : Option Bytes → Except ConfigError Config
  | none => .error .missingFile
  | some bytes =>
    match Utf8.decode? bytes with
    | none => .error .notUtf8
    | some s => parse s

end Config

end Switchboard
