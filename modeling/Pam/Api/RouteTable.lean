import Pam.Api.Router
import Pam.Foundation.Failure
import Pam.Foundation.Run

namespace Pam.Api

open Foundation Protocol List

/-! Registration of routes: duplicates are found by the path as written, static
routes by the path without its final slashes. -/

inductive Segment where
  | literal (text : PhpString)
  | parameter (name : PhpString)

def isNameStart (byte : UInt8) : Bool :=
  (0x41 ≤ byte && byte ≤ 0x5A) || (0x61 ≤ byte && byte ≤ 0x7A) || byte == 0x5F

/-- A segment in braces, bytes 0x7B and 0x7D. -/
def parameterName : PhpString → Option PhpString
  | 0x7B :: first :: rest =>
    if isNameStart first && rest.getLast? == some 0x7D &&
        rest.dropLast.all fun byte => isNameStart byte || isDigit byte then
      some (first :: rest.dropLast)
    else none
  | _ => none

def names (segments : List Segment) : List PhpString := segments.filterMap fun
  | .literal _ => none
  | .parameter name => some name

def compileSegments : List Segment → List PhpString → Except PhpString (List Segment)
  | compiled, [] => .ok compiled
  | compiled, segment :: segments =>
    match parameterName segment with
    | some name =>
      if name ∈ names compiled then
        .error (asciiBytes "Route parameter " ++ name ++ asciiBytes " is duplicated.")
      else if 32 ≤ (names compiled).length then
        .error (asciiBytes "Route path contains too many parameters.")
      else compileSegments (compiled ++ [.parameter name]) segments
    | none =>
      if 0x7B ∈ segment ∨ 0x7D ∈ segment then
        .error (asciiBytes "Route parameters must occupy an entire path segment.")
      else compileSegments (compiled ++ [.literal segment]) segments

def compile (path : PhpString) : Except PhpString (List Segment) :=
  if path = [0x2F] then .ok []
  else
    let segments := (path.dropWhile (· = 0x2F)).splitOn 0x2F
    if 128 < segments.length then .error (asciiBytes "Route path contains too many segments.")
    else compileSegments [] segments

variable {Handler : Type}

abbrev TableRoute (Handler : Type) := Route (List Segment) Handler

def signature (method path : PhpString) : PhpString := method ++ 0x20 :: path

def Route.signature (route : TableRoute Handler) : PhpString :=
  Api.signature route.method route.path

/-- A route's pattern is its compiled path. -/
structure RouteTable (Handler : Type) where
  router : Router (List Segment) Handler
  routes : List (TableRoute Handler)
  signatures : List PhpString

def RouteTable.empty : RouteTable Handler := ⟨⟨∅, [], by simp⟩, [], []⟩

def trim (text : PhpString) : PhpString :=
  let blank (byte : UInt8) := [0x20, 0x09, 0x0A, 0x0D, 0, 0x0B].contains byte
  (text.dropWhile blank).rdropWhile blank

def MethodValid (method : PhpString) : Prop :=
  method ≠ [] ∧ method.length ≤ 32 ∧ method.all isMethodByte = true

instance (method : PhpString) : Decidable (MethodValid method) :=
  inferInstanceAs (Decidable (_ ∧ _))

theorem MethodValid.upper (valid : MethodValid method) : strtoupper method = method := by
  have unchanged : ∀ number : Fin 256, isMethodByte (.ofFin number) = true →
      upperByte (.ofFin number) = .ofFin number := by
    decide +kernel
  have fixed : ∀ byte ∈ method, upperByte byte = byte := fun byte member =>
    unchanged byte.toFin (all_eq_true.mp valid.2.2 byte member)
  rw [strtoupper, map_congr_left fixed, map_id']

def PathValid (path : PhpString) : Prop :=
  path.length ≤ 2048 ∧ path.head? = some 0x2F ∧ 0 ∉ path ∧ 0x3F ∉ path

instance (path : PhpString) : Decidable (PathValid path) := inferInstanceAs (Decidable (_ ∧ _))

variable (router : Router (List Segment) Handler) (route : TableRoute Handler)

def Router.addStatic : Router (List Segment) Handler where
  staticRoutes := router.staticRoutes.insert (normalizeStaticPath route.path)
    ((router.static route.path).insert route.method route)
  dynamicRoutes := router.dynamicRoutes
  keyed := by
    intro path methods method stored listed found
    rcases Table.lookup_of_lookup_insert listed with ⟨rfl, rfl⟩ | ⟨_, before⟩
    · rcases Table.lookup_of_lookup_insert found with ⟨rfl, rfl⟩ | ⟨_, before⟩
      · rfl
      · exact router.static_method before
    · exact router.keyed before found

def Router.add : Router (List Segment) Handler :=
  if route.parameterNames = [] then router.addStatic route
  else { router with dynamicRoutes := router.dynamicRoutes ++ [route] }

variable (maximumRoutes : Nat)

def RouteTable.register (table : RouteTable Handler) (method path : PhpString)
    (handler : Handler) : Except PhpString (RouteTable Handler) :=
  let method := strtoupper (trim method)
  if valid : MethodValid method then
    if ¬ PathValid path then
      .error (asciiBytes "Route paths must be absolute and cannot contain a query string.")
    else if maximumRoutes ≤ table.routes.length then
      .error (asciiBytes "Router route limit exceeded.")
    else if table.signatures.contains (signature method path) then
      .error (asciiBytes "Route " ++ signature method path ++ asciiBytes " is already registered.")
    else do
      let pattern ← compile path
      let route := ⟨method, path, handler, pattern, names pattern, valid.upper, valid.2.1⟩
      return ⟨table.router.add route, table.routes ++ [route],
        signature method path :: table.signatures⟩
  else .error (asciiBytes "Route method is invalid.")

structure Registration (Handler : Type) where
  method : PhpString
  path : PhpString
  handler : Handler

def routeMachine : Machine (RouteTable Handler) (Registration Handler) where
  start := .empty
  next table call := (table.register maximumRoutes call.method call.path call.handler).toOption

variable {router route maximumRoutes} {table target : RouteTable Handler}

theorem Router.static_add : (router.add route).static path =
    if route.parameterNames = [] ∧ normalizeStaticPath path = normalizeStaticPath route.path then
      (router.static path).insert route.method route
    else router.static path := by
  unfold Router.add Router.static
  generalize normalizeStaticPath path = key
  by_cases static : route.parameterNames = []
  · by_cases same : key = normalizeStaticPath route.path
    · subst same
      simp [static, addStatic, Router.static]
    · simp [static, same, addStatic]
  · simp [static]

structure RouteTable.Sound (table : RouteTable Handler) : Prop where
  short : ∀ route ∈ table.routes, route.path.length ≤ 2048
  signed : ∀ signature, signature ∈ table.signatures ↔
    signature ∈ table.routes.map Route.signature
  distinct : (table.routes.map Route.signature).Nodup
  entered : ∀ route ∈ table.routes, route.parameterNames = [] →
    route.method ∈ table.router.static route.path
  listed : ∀ {path method : PhpString} {route},
    (table.router.static path).lookup method = some route →
    route ∈ table.routes ∧ route.parameterNames = [] ∧
      normalizeStaticPath route.path = normalizeStaticPath path

theorem RouteTable.register_eq_ok
    (registered : table.register maximumRoutes method path handler = .ok target) :
    ∃ route, route.path.length ≤ 2048 ∧ route.signature ∉ table.signatures ∧
      target = ⟨table.router.add route, table.routes ++ [route],
        route.signature :: table.signatures⟩ := by
  dsimp only [register] at registered
  split at registered
  swap
  · cases registered
  split at registered
  · cases registered
  next valid =>
  split at registered
  · cases registered
  split at registered
  · cases registered
  next fresh =>
  obtain ⟨pattern, compiled, same⟩ := bind_eq_ok.mp registered
  cases same
  refine ⟨_, ?_, ?_, rfl⟩
  · exact (not_not.mp valid).1
  · exact mt contains_iff_mem.mpr fresh

theorem RouteTable.Sound.next (sound : table.Sound)
    (step : (routeMachine maximumRoutes).next table call = some target) : target.Sound := by
  cases registered : table.register maximumRoutes call.method call.path call.handler with
  | error message => simp [routeMachine, registered, Except.toOption] at step
  | ok next =>
  obtain ⟨route, short, fresh, rfl⟩ := register_eq_ok registered
  simp only [routeMachine, registered, Except.toOption, Option.some.injEq] at step
  subst step
  constructor
  · simp only [forall_mem_append, forall_mem_singleton]
    exact ⟨sound.short, short⟩
  · intro signature
    rw [mem_cons, sound.signed, map_append, map_singleton, mem_append, mem_singleton, or_comm]
  · rw [map_append]
    exact nodup_append_comm.mp (nodup_cons.mpr ⟨mt (sound.signed _).mpr fresh, sound.distinct⟩)
  · simp only [forall_mem_append, forall_mem_singleton, Router.static_add]
    refine ⟨fun other member static => ?_, fun static => by simp [static]⟩
    have entered := sound.entered other member static
    split
    · simp [entered]
    · exact entered
  · intro path method stored found
    rw [Router.static_add] at found
    split at found
    next matching =>
      rcases Table.lookup_of_lookup_insert found with ⟨rfl, rfl⟩ | ⟨_, before⟩
      · simp [matching]
      · have listed := sound.listed before
        simp [listed]
    · have listed := sound.listed found
      simp [listed]

theorem RouteTable.Sound.empty : (RouteTable.empty : RouteTable Handler).Sound where
  short := forall_mem_nil _
  signed := by simp [RouteTable.empty]
  distinct := nodup_nil
  entered := forall_mem_nil _
  listed := by simp [RouteTable.empty, Router.static]

theorem RouteTable.Sound.finish (calls : List (Registration Handler)) :
    ((routeMachine maximumRoutes).finish .empty calls).Sound :=
  (routeMachine maximumRoutes).finish_of_kept _ (fun sound step => sound.next step) .empty calls

variable (pregMatch : List Segment → PhpString → Option (PhpString → Option PhpString))
  (rawurldecode : PhpString → PhpString)

theorem RouteTable.Sound.match_static (sound : table.Sound) (member : route ∈ table.routes)
    (static : route.parameterNames = []) :
    ∃ stored, (table.router.static route.path).lookup route.method = some stored ∧
      table.router.match pregMatch rawurldecode route.method route.path = .found stored [] := by
  obtain ⟨stored, found⟩ := Option.isSome_iff_exists.mp
    (AList.lookup_isSome.mpr (sound.entered route member static))
  have sizes : ¬ (32 < route.method.length ∨ 2048 < route.path.length) := by
    have short := route.short
    have path := sound.short route member
    omega
  have chosen : table.router.staticRoute route.path (strtoupper route.method) = some stored := by
    rw [route.upper, Router.staticRoute, found, Option.some_or]
  exact ⟨stored, found, by simp [Router.match, sizes, chosen]⟩

theorem RouteTable.Sound.rejected (sound : table.Sound) (member : route ∈ table.routes)
    (same : strtoupper (trim method) = route.method) (handler : Handler) :
    ∃ message, table.register maximumRoutes method route.path handler = .error message := by
  have listed : table.signatures.contains (signature (strtoupper (trim method)) route.path) := by
    rw [contains_iff_mem, same, sound.signed]
    exact mem_map_of_mem member
  simp only [register, listed, if_true]
  split
  swap
  · exact ⟨_, rfl⟩
  split
  · exact ⟨_, rfl⟩
  split <;> exact ⟨_, rfl⟩

/-- Every static route is found, and a second one of its method and path is
rejected. -/
structure RouteTable.Alive (maximumRoutes : Nat) (table : RouteTable Handler) : Prop where
  found : ∀ route ∈ table.routes, route.parameterNames = [] →
    table.router.match pregMatch rawurldecode route.method route.path = .found route []
  rejected : ∀ route ∈ table.routes, route.parameterNames = [] → ∀ method handler,
    strtoupper (trim method) = route.method →
      ∃ message, table.register maximumRoutes method route.path handler = .error message

/-- Every static route is found exactly if no two of one method differ only in
their final slashes. -/
theorem static_routes_found_iff (maximumRoutes : Nat) (calls : List (Registration Handler)) :
    let table := (routeMachine maximumRoutes).finish .empty calls
    table.Alive pregMatch rawurldecode maximumRoutes ↔
      ∀ first ∈ table.routes, ∀ second ∈ table.routes, first.parameterNames = [] →
        second.parameterNames = [] → first.method = second.method →
        normalizeStaticPath first.path = normalizeStaticPath second.path →
        first.path = second.path := by
  intro table
  have sound : table.Sound := .finish calls
  constructor
  · intro alive first member second other static staticToo method path
    obtain ⟨stored, lookup, result⟩ := sound.match_static pregMatch rawurldecode member static
    obtain ⟨again, lookupToo, resultToo⟩ :=
      sound.match_static pregMatch rawurldecode other staticToo
    cases (alive.found first member static).symm.trans result
    cases (alive.found second other staticToo).symm.trans resultToo
    have listing : table.router.static first.path = table.router.static second.path :=
      congrArg (fun key => (table.router.staticRoutes.lookup key).getD ∅) path
    rw [listing, method, lookupToo] at lookup
    cases lookup
    rfl
  · intro distinct
    refine ⟨fun route member static => ?_, fun route member _ method handler same =>
      sound.rejected member same handler⟩
    obtain ⟨stored, lookup, result⟩ := sound.match_static pregMatch rawurldecode member static
    obtain ⟨listed, plain, path⟩ := sound.listed lookup
    have method := table.router.static_method lookup
    have path := distinct stored listed route member plain static method path
    -- The signature check leaves one route of this method and path.
    have signed : stored.signature = route.signature := by
      rw [Route.signature, Route.signature, method, path]
    rw [result, inj_on_of_nodup_map sound.distinct listed member signed]

def RoutingResult.handler : RoutingResult Pattern Handler → Option Handler
  | .found route _ => some route.handler
  | _ => none

theorem final_slash_takes_over : ¬ ∀ calls : List (Registration Nat),
    ((routeMachine 10000).finish .empty calls).Alive (fun _ _ => none) id 10000 := by
  intro alive
  have first := (alive [⟨asciiBytes "GET", asciiBytes "/a", 1⟩,
    ⟨asciiBytes "GET", asciiBytes "/a/", 2⟩]).found _ (get_mem _ ⟨0, by decide +kernel⟩)
      (by decide +kernel)
  exact absurd (congrArg RoutingResult.handler first) (by decide +kernel)

end Pam.Api
