import Switchboard.Pipeline.Hook

namespace Switchboard.Echo

def path : String := "/test"

def reply (action : String) : Value :=
  .ofFields [("action", .text action), ("msg", .text ("Test URI - " ++ action))]

def controller {σ : Type} : Controller (Handler σ) where
  create := some (Handler.returning (.value (reply "POST")))
  read := some (Handler.returning (.value (reply "GET")))

def registrations {σ : Type} : List (Registration (Handler σ)) :=
  controller.registrations path [.get, .post]

end Switchboard.Echo
