import Switchboard.Route.Table

namespace Switchboard

structure Action (H : Type) where
  route : Route H
  found : Match

namespace Table

variable {H : Type}

def firstMatch? (path : String) (routes : List (Route H)) : Option (Action H) :=
  routes.findSome? fun route => (route.pattern.match? path).map fun found => ⟨route, found⟩

/-- The methods with a route that matches the path, in the table's order. -/
def allowedMethods (t : Table H) (path : String) : List Method :=
  t.methods.filter fun method => (t.routesFor method).any fun r => r.pattern.matchesPath path

/-- The first registered route of the method that matches the path. -/
def resolve (t : Table H) (method : Method) (path : String) : Except ServiceError (Action H) :=
  match firstMatch? path (t.routesFor method) with
  | some action => .ok action
  | none =>
    match t.allowedMethods path with
    | [] => .error ⟨.notFound, "Unresolvable URL: " ++ method.name ++ " " ++ path, {}, none⟩
    | allowed => .error (.wrongMethod method path allowed)

end Table

def Request.withMatch (r : Request) (found : Match) (routeName : Option String) : Request :=
  { r with params := found.params, format := found.format, routeName }

end Switchboard
