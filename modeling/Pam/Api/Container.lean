import Pam.Foundation.Run
import Pam.Protocol.PhpValue

namespace Pam.Api

open Pam.Foundation Pam.Protocol List Option Function AList Table

/-! `Container` under fibers. Factories, constructors and the request are any
code. -/

inductive BindingLifetime where
  | transient
  | singleton
  | scoped
  deriving DecidableEq

abbrev FiberId := Option Nat

abbrev ScopeEntries := Table PhpString Nat

inductive ContainerFailure where
  | logic (before : String) (id : PhpString) (after : String)
  | runtime (before : String) (id : PhpString) (after : String)

/-- Of a binding only the lifetime is kept, as its factory is any code. -/
structure Container where
  bindings : Table PhpString BindingLifetime
  singletons : Table PhpString Nat
  fiberScopes : Table Nat ScopeEntries
  mainScope : Option ScopeEntries

/-- A call of `get` whose factory is at work, with the scope it has copied. -/
structure Resolution where
  id : PhpString
  scope : Option ScopeEntries
  lifetime : Option BindingLifetime

inductive Entered where
  | found (value : Nat)
  | builds (resolution : Resolution)
  | throws (failure : ContainerFailure)

namespace Container

def currentScope (container : Container) : FiberId → Option ScopeEntries
  | none => container.mainScope
  | some fiber => container.fiberScopes.lookup fiber

def replaceCurrentScope (container : Container) (scope : ScopeEntries) : FiberId → Container
  | none => { container with mainScope := some scope }
  | some fiber => { container with fiberScopes := container.fiberScopes.assign fiber scope }

def registerInstance (container : Container) (id : PhpString) (value : Nat) : Container :=
  { container with singletons := container.singletons.assign id value }

def scopedInstance (container : Container) (fiber : FiberId) (id : PhpString)
    (value : Nat) : Except ContainerFailure Container :=
  match container.currentScope fiber with
  | none => .error (.logic "Scoped entry " id " cannot be registered outside a request scope.")
  | some scope => .ok (container.replaceCurrentScope (scope.assign id value) fiber)

def beginScope (container : Container) (fiber : FiberId) : Except ContainerFailure Container :=
  match container.currentScope fiber with
  | some _ => .error (.logic "A PAM API container scope is already active." [] "")
  | none => .ok (container.replaceCurrentScope ∅ fiber)

def endScope (container : Container) : FiberId → Container
  | none => { container with mainScope := none }
  | some fiber => { container with fiberScopes := container.fiberScopes.erase fiber }

def register (container : Container) (fiber : FiberId) (id : PhpString)
    (lifetime : BindingLifetime) : Container :=
  let container := { container with
      bindings := container.bindings.assign id lifetime
      singletons := container.singletons.erase id }
  match container.currentScope fiber with
  | none => container
  | some scope => container.replaceCurrentScope (scope.erase id) fiber

def get (classExists : PhpString → Bool) (container : Container)
    (fiber : FiberId) (id : PhpString) : Entered :=
  match container.singletons.lookup id with
  | some value => .found value
  | none =>
    let scope := container.currentScope fiber
    match scope.bind fun entries => entries.lookup id with
    | some value => .found value
    | none =>
      match container.bindings.lookup id with
      | some lifetime => .builds ⟨id, scope, some lifetime⟩
      | none =>
        if classExists id then .builds ⟨id, scope, none⟩
        else .throws (.runtime "Container entry " id " is not bound and is not a class.")

def keep (container : Container) (fiber : FiberId) (resolution : Resolution)
    (value : Nat) : Except ContainerFailure Container :=
  match resolution.lifetime, resolution.scope with
  | some .singleton, _ => .ok { container with
      singletons := container.singletons.assign resolution.id value }
  | some .scoped, none =>
    .error (.logic "Scoped entry " resolution.id " was resolved outside a request scope.")
  | some .scoped, some scope =>
    .ok (container.replaceCurrentScope (scope.assign resolution.id value) fiber)
  | _, _ => .ok container

end Container

/-- Beside the container: the open calls of `get`, the innermost first; what was
returned for scoped entries in the scope of the fiber, and for singletons; and
every value that was an instance of a scope. -/
structure ContainerRun where
  container : Container
  resolving : FiberId → List Resolution
  returnedScoped : FiberId → List (PhpString × Nat)
  returnedSingleton : List (PhpString × Nat)
  scopedInstances : List (FiberId × Nat)

inductive ContainerCall where
  | get (fiber : FiberId) (id : PhpString)
  | factoryReturns (fiber : FiberId) (value : Nat)
  | factoryThrows (fiber : FiberId)
  | register (fiber : FiberId) (id : PhpString) (lifetime : BindingLifetime)
  | registerInstance (id : PhpString) (value : Nat)
  | scopedInstance (fiber : FiberId) (id : PhpString) (value : Nat)
  | beginScope (fiber : FiberId)
  | endScope (fiber : FiberId)

namespace ContainerRun

def initial : ContainerRun where
  container := ⟨∅, ∅, ∅, none⟩
  resolving _ := []
  returnedScoped _ := []
  returnedSingleton := []
  scopedInstances := []

def returned (state : ContainerRun) (fiber : FiberId) (id : PhpString)
    (value : Nat) : ContainerRun :=
  match state.container.bindings.lookup id with
  | some .scoped => { state with
      returnedScoped := Function.update state.returnedScoped fiber
        ((id, value) :: state.returnedScoped fiber) }
  | some .singleton => { state with returnedSingleton := (id, value) :: state.returnedSingleton }
  | _ => state

def within (state : ContainerRun) (fiber : FiberId)
    (resolutions : List Resolution) : ContainerRun :=
  { state with resolving := Function.update state.resolving fiber resolutions }

def scopedIn (state : ContainerRun) (container : Container) (fiber : FiberId)
    (value : Nat) : ContainerRun := { state with
    container := container
    scopedInstances := (fiber, value) :: state.scopedInstances }

def freshScope (state : ContainerRun) (container : Container) (fiber : FiberId) : ContainerRun :=
  { state with
    container := container
    returnedScoped := Function.update state.returnedScoped fiber [] }

def renewed (state : ContainerRun) (container : Container) (id : PhpString) : ContainerRun :=
  { state with
    container := container
    returnedSingleton := state.returnedSingleton.filter fun entry => entry.1 ≠ id }

def kept (state : ContainerRun) (container : Container) (fiber : FiberId)
    (resolution : Resolution) (value : Nat) : ContainerRun :=
  if resolution.lifetime = some .scoped then state.scopedIn container fiber value
  else { state with container := container }

variable (classExists : PhpString → Bool)

def next (state : ContainerRun) : ContainerCall → Option ContainerRun
  | .get fiber id =>
    match state.container.get classExists fiber id with
    | .found value => some (state.returned fiber id value)
    | .builds resolution => some (state.within fiber (resolution :: state.resolving fiber))
    | .throws _ => some state
  | .factoryReturns fiber value =>
    match state.resolving fiber with
    | [] => none
    | resolution :: rest =>
      match state.container.keep fiber resolution value with
      | .error _ => some (state.within fiber rest)
      | .ok container => some (((state.within fiber rest).kept container fiber resolution
          value).returned fiber resolution.id value)
  | .factoryThrows fiber =>
    match state.resolving fiber with
    | [] => none
    | _ :: rest => some (state.within fiber rest)
  | .register fiber id lifetime =>
    some (state.renewed (state.container.register fiber id lifetime) id)
  | .registerInstance id value =>
    some (state.renewed (state.container.registerInstance id value) id)
  | .scopedInstance fiber id value =>
    match state.container.scopedInstance fiber id value with
    | .error _ => some state
    | .ok container => some (state.scopedIn container fiber value)
  | .beginScope fiber =>
    match state.container.beginScope fiber with
    | .error _ => some state
    | .ok container => some (state.freshScope container fiber)
  | .endScope fiber => some (state.freshScope (state.container.endScope fiber) fiber)

def returns (state : ContainerRun) : ContainerCall → Option (FiberId × PhpString × Nat)
  | .get fiber id =>
    match state.container.get classExists fiber id with
    | .found value => some (fiber, id, value)
    | _ => none
  | .factoryReturns fiber value =>
    match state.resolving fiber with
    | [] => none
    | resolution :: _ =>
      match state.container.keep fiber resolution value with
      | .error _ => none
      | .ok _ => some (fiber, resolution.id, value)
  | _ => none

end ContainerRun

def containerMachine (classExists : PhpString → Bool) : Machine ContainerRun ContainerCall where
  start := .initial
  next := ContainerRun.next classExists

/-- What is returned for a scoped entry was returned before in its scope, for a
singleton before at all, and nothing is an instance of another fiber's scope. -/
structure LifetimeKept (state : ContainerRun) (fiber : FiberId)
    (id : PhpString) (value : Nat) : Prop where
  inScope : state.container.bindings.lookup id = some .scoped →
    ∀ earlier, (id, earlier) ∈ state.returnedScoped fiber → earlier = value
  inLife : state.container.bindings.lookup id = some .singleton →
    ∀ earlier, (id, earlier) ∈ state.returnedSingleton → earlier = value
  own : ∀ other, other ≠ fiber → (other, value) ∉ state.scopedInstances

def LifetimesKept (classExists : PhpString → Bool) (state : ContainerRun)
    (call : ContainerCall) : Prop :=
  ∀ fiber id value, state.returns classExists call = some (fiber, id, value) →
    LifetimeKept state fiber id value

/-- What a factory may return. -/
structure MayReturn (state : ContainerRun) (fiber : FiberId)
    (resolution : Resolution) (value : Nat) : Prop where
  own : ∀ other, other ≠ fiber → (other, value) ∉ state.scopedInstances
  ofSingleton : resolution.lifetime = some .singleton → (fiber, value) ∉ state.scopedInstances ∧
      ∀ known ∈ state.container.singletons.lookup resolution.id, known = value
  ofScoped : resolution.lifetime = some .scoped →
    (∀ key, state.container.singletons.lookup key ≠ some value) ∧
      ∀ copied ∈ resolution.scope, ∀ scope ∈ state.container.currentScope fiber,
          ∀ key, ∀ known ∈ scope.lookup key,
            (copied.assign resolution.id value).lookup key = some known

structure Unused (state : ContainerRun) (id : PhpString) : Prop where
  scopes : ∀ fiber, ∀ scope ∈ state.container.currentScope fiber, id ∉ scope
  resolutions : ∀ fiber, ∀ resolution ∈ state.resolving fiber,
    resolution.id ≠ id ∧ ∀ copied ∈ resolution.scope, id ∉ copied

/-- What `scopedInstance` may be given. -/
structure MayScope (state : ContainerRun) (fiber : FiberId) (id : PhpString)
    (value : Nat) : Prop where
  own : ∀ other, other ≠ fiber → (other, value) ∉ state.scopedInstances
  shared : ∀ key, state.container.singletons.lookup key ≠ some value
  lifetime : state.container.bindings.lookup id ≠ some .singleton
  ofScoped : state.container.bindings.lookup id = some .scoped →
    ∀ scope ∈ state.container.currentScope fiber, ∀ known ∈ scope.lookup id, known = value

def Disciplined (state : ContainerRun) : ContainerCall → Prop
  | .factoryReturns fiber value =>
    ∀ resolution ∈ (state.resolving fiber).head?, MayReturn state fiber resolution value
  | .register _ id _ => Unused state id
  | .registerInstance id value => state.container.bindings.lookup id ≠ some .scoped ∧
      ∀ fiber, (fiber, value) ∉ state.scopedInstances
  | .scopedInstance fiber id value => MayScope state fiber id value
  | _ => True

namespace Container

variable (container : Container) (scope : ScopeEntries)

theorem currentScope_replaceCurrentScope :
    (container.replaceCurrentScope scope fiber).currentScope other =
      if other = fiber then some scope else container.currentScope other := by
  cases fiber with
  | none => cases other <;> rfl
  | some fiber =>
    cases other with
    | none => rfl
    | some other => simp [replaceCurrentScope, currentScope, lookup_assign]

variable (fiber : FiberId)

theorem currentScope_endScope : (container.endScope fiber).currentScope other =
      if other = fiber then none else container.currentScope other := by
  cases fiber with
  | none => cases other <;> rfl
  | some fiber =>
    cases other with
    | none => rfl
    | some other =>
      simp only [endScope, currentScope, some.injEq]
      split
      · next same => rw [same, lookup_erase]
      · next different => rw [lookup_erase_ne different]

variable (id : PhpString)

theorem currentScope_register : (container.register fiber id lifetime).currentScope other =
      if other = fiber then (container.currentScope other).map (erase id)
      else container.currentScope other := by
  have unchanged : ∀ fiber, ({ container with
      bindings := container.bindings.assign id lifetime
      singletons := container.singletons.erase id } :
        Container).currentScope fiber = container.currentScope fiber := by
    intro fiber
    cases fiber <;> rfl
  rw [register, unchanged]
  cases isScope : container.currentScope fiber with
  | none =>
    rw [unchanged]
    split
    · next same => rw [same, isScope, map_none]
    · rfl
  | some scope =>
    rw [currentScope_replaceCurrentScope]
    split
    · next same => rw [same, isScope, map_some]
    · rfl

@[simp] theorem bindings_replaceCurrentScope :
    (container.replaceCurrentScope scope fiber).bindings = container.bindings := by
  cases fiber <;> rfl

@[simp] theorem singletons_replaceCurrentScope :
    (container.replaceCurrentScope scope fiber).singletons = container.singletons := by
  cases fiber <;> rfl

@[simp] theorem bindings_endScope : (container.endScope fiber).bindings = container.bindings := by
  cases fiber <;> rfl

@[simp] theorem singletons_endScope :
    (container.endScope fiber).singletons = container.singletons := by
  cases fiber <;> rfl

theorem bindings_register :
    (container.register fiber id lifetime).bindings = container.bindings.assign id lifetime := by
  rw [register]
  split <;> simp

theorem singletons_register :
    (container.register fiber id lifetime).singletons = container.singletons.erase id := by
  rw [register]
  split <;> simp

end Container

variable (bindings : Table PhpString BindingLifetime) (instances : List (FiberId × Nat))

structure ScopedEntry (fiber : FiberId) (key : PhpString) (value : Nat) : Prop where
  lifetime : bindings.lookup key ≠ some .singleton
  isInstance : (fiber, value) ∈ instances

def SoundScope (fiber : FiberId) (scope : ScopeEntries) : Prop :=
  ∀ ⦃key value⦄, scope.lookup key = some value → ScopedEntry bindings instances fiber key value

structure SoundResolution (fiber : FiberId) (resolution : Resolution) : Prop where
  lifetime : resolution.lifetime = bindings.lookup resolution.id
  copied : ∀ copied ∈ resolution.scope, SoundScope bindings instances fiber copied

variable {bindings instances}

theorem SoundScope.assign {fiber : FiberId}
    (sound : SoundScope bindings instances fiber scope) {key : PhpString}
    {value : Nat} (entry : ScopedEntry bindings instances fiber key value) :
    SoundScope bindings instances fiber (scope.assign key value) := by
  intro other found isFound
  rw [lookup_assign] at isFound
  split at isFound
  next same =>
    cases isFound
    exact same ▸ entry
  · exact sound isFound

theorem SoundScope.more {fiber : FiberId} {scope : ScopeEntries}
    (sound : SoundScope bindings instances fiber scope) (other : FiberId × Nat) :
    SoundScope bindings (other :: instances) fiber scope :=
  fun _ _ isFound => ⟨(sound isFound).lifetime, mem_cons_of_mem _ (sound isFound).isInstance⟩

theorem SoundScope.rebind {fiber : FiberId}
    (sound : SoundScope bindings instances fiber scope) {id : PhpString}
    (absent : id ∉ scope) (lifetime : BindingLifetime) :
    SoundScope (bindings.assign id lifetime) instances fiber scope := by
  intro key value isFound
  have isOther : key ≠ id := by
    rintro rfl
    exact absent (lookup_isSome.mp (by rw [isFound]; rfl))
  refine ⟨?_, (sound isFound).isInstance⟩
  rw [lookup_assign, if_neg isOther]
  exact (sound isFound).lifetime

structure ContainerSound (state : ContainerRun) : Prop where
  returnedScoped : ∀ {fiber id value}, (id, value) ∈ state.returnedScoped fiber →
    state.container.bindings.lookup id = some .scoped ∧
      ∃ scope, state.container.currentScope fiber = some scope ∧ scope.lookup id = some value
  returnedSingleton : ∀ {id value}, (id, value) ∈ state.returnedSingleton →
    state.container.singletons.lookup id = some value
  scopes : ∀ fiber, ∀ scope ∈ state.container.currentScope fiber,
    SoundScope state.container.bindings state.scopedInstances fiber scope
  singletons : ∀ {id value}, state.container.singletons.lookup id = some value →
    state.container.bindings.lookup id ≠ some .scoped ∧
      ∀ fiber, (fiber, value) ∉ state.scopedInstances
  oneFiber : ∀ {fiber other value}, (fiber, value) ∈ state.scopedInstances →
    (other, value) ∈ state.scopedInstances → other = fiber
  resolving : ∀ fiber, ∀ resolution ∈ state.resolving fiber,
    SoundResolution state.container.bindings state.scopedInstances fiber resolution

namespace ContainerSound

theorem initial : ContainerSound .initial where
  returnedScoped member := nomatch member
  returnedSingleton member := nomatch member
  scopes fiber scope isScope := by cases fiber <;> cases isScope
  singletons found := nomatch found
  oneFiber member := nomatch member
  resolving _ := forall_mem_nil _

variable (sound : ContainerSound state)
include sound

theorem within (all : ∀ resolution ∈ resolutions, SoundResolution
      state.container.bindings state.scopedInstances fiber resolution) :
    ContainerSound (state.within fiber resolutions) := { sound with
    resolving := by
      intro other resolution member
      by_cases same : other = fiber
      · subst same
        simp only [ContainerRun.within, update_self] at member
        exact all resolution member
      · simp only [ContainerRun.within, update_of_ne same] at member
        exact sound.resolving other resolution member }

theorem close {resolution : Resolution} {rest : List Resolution}
    (isOpen : state.resolving fiber = resolution :: rest) :
    ContainerSound (state.within fiber rest) := sound.within fun other member =>
    sound.resolving fiber other (isOpen ▸ mem_cons_of_mem _ member)

theorem returned {id : PhpString} {value : Nat}
    (ofScoped : state.container.bindings.lookup id = some .scoped →
      ∃ scope, state.container.currentScope fiber = some scope ∧ scope.lookup id = some value)
    (ofSingleton : state.container.bindings.lookup id = some .singleton →
      state.container.singletons.lookup id = some value) :
    ContainerSound (state.returned fiber id value) := by
  rw [ContainerRun.returned]
  split
  next isScoped =>
    refine { sound with returnedScoped := ?_ }
    intro other key earlier member
    by_cases same : other = fiber
    · subst same
      simp only [update_self] at member
      rcases mem_cons.mp member with equal | old
      · cases equal
        exact ⟨isScoped, ofScoped isScoped⟩
      · exact sound.returnedScoped old
    · simp only [update_of_ne same] at member
      exact sound.returnedScoped member
  next isSingleton =>
    refine { sound with returnedSingleton := ?_ }
    intro key earlier member
    rcases mem_cons.mp member with equal | old
    · cases equal
      exact ofSingleton isSingleton
    · exact sound.returnedSingleton old
  · exact sound

theorem scopedIn {key : PhpString} {value : Nat}
    (own : ∀ other, other ≠ fiber → (other, value) ∉ state.scopedInstances)
    (shared : ∀ key, state.container.singletons.lookup key ≠ some value)
    (lifetime : state.container.bindings.lookup key ≠ some .singleton)
    (written : SoundScope state.container.bindings state.scopedInstances fiber scope)
    (keeps : ∀ {id earlier}, (id, earlier) ∈ state.returnedScoped fiber →
      (scope.assign key value).lookup id = some earlier) :
    ContainerSound (state.scopedIn (state.container.replaceCurrentScope
      (scope.assign key value) fiber) fiber value) where
  returnedScoped {other id earlier} member := by
    simp only [ContainerRun.scopedIn, Container.currentScope_replaceCurrentScope,
      Container.bindings_replaceCurrentScope]
    by_cases same : other = fiber
    · rw [if_pos same]
      exact ⟨(sound.returnedScoped member).1, _, rfl, keeps (same ▸ member)⟩
    · rw [if_neg same]
      exact sound.returnedScoped member
  returnedSingleton member := by
    simpa [ContainerRun.scopedIn] using sound.returnedSingleton member
  scopes other scope isScope := by
    simp only [ContainerRun.scopedIn, Container.currentScope_replaceCurrentScope,
      Container.bindings_replaceCurrentScope] at isScope ⊢
    split at isScope
    next same =>
      cases isScope
      subst same
      exact (written.more _).assign ⟨lifetime, mem_cons_self⟩
    · exact (sound.scopes other scope isScope).more _
  singletons {id found} isFound := by
    simp only [ContainerRun.scopedIn, Container.singletons_replaceCurrentScope,
      Container.bindings_replaceCurrentScope] at isFound ⊢
    refine ⟨(sound.singletons isFound).1, ?_⟩
    intro other member
    rcases mem_cons.mp member with equal | old
    · cases equal
      exact shared id isFound
    · exact (sound.singletons isFound).2 other old
  oneFiber {first second found} isFirst isSecond := by
    rcases mem_cons.mp isFirst with equal | old
    · cases equal
      rcases mem_cons.mp isSecond with again | other
      · cases again
        rfl
      · by_contra different
        exact own second different other
    · rcases mem_cons.mp isSecond with again | other
      · cases again
        by_contra different
        exact own first (Ne.symm different) old
      · exact sound.oneFiber old other
  resolving other resolution member := by
    have kept := sound.resolving other resolution member
    simp only [ContainerRun.scopedIn, Container.bindings_replaceCurrentScope]
    exact ⟨kept.lifetime, fun copied isCopied => (kept.copied copied isCopied).more _⟩

theorem assigned {id : PhpString} {value : Nat}
    (lifetime : state.container.bindings.lookup id ≠ some .scoped)
    (shared : ∀ fiber, (fiber, value) ∉ state.scopedInstances)
    (keeps : ∀ {earlier}, (id, earlier) ∈ state.returnedSingleton → earlier = value) :
    ContainerSound { state with container := state.container.registerInstance id value } :=
  { sound with
    returnedScoped := by
      exact sound.returnedScoped
    returnedSingleton := by
      intro key earlier member
      simp only [Container.registerInstance, lookup_assign]
      split
      next same =>
        subst same
        rw [keeps member]
      · exact sound.returnedSingleton member
    singletons := by
      intro key found isFound
      simp only [Container.registerInstance, lookup_assign] at isFound
      split at isFound
      next same =>
        cases isFound
        subst same
        exact ⟨lifetime, shared⟩
      · exact sound.singletons isFound }

theorem forget (id : PhpString) : ContainerSound (state.renewed state.container id) := { sound with
    returnedSingleton := fun member => sound.returnedSingleton (mem_of_mem_filter member) }

theorem freshScope (bindings : container.bindings = state.container.bindings)
    (singletons : container.singletons = state.container.singletons)
    (others : ∀ other, other ≠ fiber →
      container.currentScope other = state.container.currentScope other)
    (empty : ∀ scope ∈ container.currentScope fiber, scope = ∅) :
    ContainerSound (state.freshScope container fiber) where
  returnedScoped {other id value} member := by
    by_cases same : other = fiber
    · subst same
      simp only [ContainerRun.freshScope, update_self] at member
      cases member
    simp only [ContainerRun.freshScope, update_of_ne same, others other same, bindings] at member ⊢
    exact sound.returnedScoped member
  returnedSingleton member := by
    simp only [ContainerRun.freshScope, singletons]
    exact sound.returnedSingleton member
  scopes other scope isScope := by
    simp only [ContainerRun.freshScope, bindings] at isScope ⊢
    by_cases same : other = fiber
    · subst same
      rw [empty scope isScope]
      intro key value isFound
      cases isFound
    · rw [others other same] at isScope
      exact sound.scopes other scope isScope
  singletons isFound := by
    simp only [ContainerRun.freshScope, bindings, singletons] at isFound ⊢
    exact sound.singletons isFound
  oneFiber := sound.oneFiber
  resolving other resolution member := by
    simp only [ContainerRun.freshScope, bindings]
    exact sound.resolving other resolution member

theorem register {id : PhpString} (unused : Unused state id)
    (fiber : FiberId) (lifetime : BindingLifetime) :
    ContainerSound (state.renewed (state.container.register fiber id lifetime) id) where
  returnedScoped {other key value} member := by
    obtain ⟨isScoped, scope, isScope, found⟩ := sound.returnedScoped member
    have isOther : key ≠ id := by
      rintro rfl
      exact unused.scopes other scope isScope (lookup_isSome.mp (by rw [found]; rfl))
    simp only [ContainerRun.renewed, Container.currentScope_register, Container.bindings_register]
    refine ⟨by rw [lookup_assign, if_neg isOther, isScoped], ?_⟩
    split
    · rw [isScope]
      exact ⟨_, rfl, by rw [lookup_erase_ne isOther, found]⟩
    · exact ⟨scope, isScope, found⟩
  returnedSingleton {key value} member := by
    obtain ⟨old, isOther⟩ := mem_filter.mp member
    simp only [ContainerRun.renewed, Container.singletons_register]
    rw [lookup_erase_ne (of_decide_eq_true isOther)]
    exact sound.returnedSingleton old
  scopes other scope isScope := by
    simp only [ContainerRun.renewed, Container.currentScope_register,
      Container.bindings_register] at isScope ⊢
    split at isScope
    · obtain ⟨before, isBefore, rfl⟩ := map_eq_some_iff.mp isScope
      intro key value found
      exact (sound.scopes other before isBefore).rebind
        (unused.scopes other before isBefore) lifetime (lookup_of_lookup_erase found).1
    · exact (sound.scopes other scope isScope).rebind (unused.scopes other scope isScope) lifetime
  singletons {key value} found := by
    simp only [ContainerRun.renewed, Container.singletons_register,
      Container.bindings_register] at found ⊢
    have isOther : key ≠ id := by
      rintro rfl
      rw [lookup_erase] at found
      cases found
    rw [lookup_erase_ne isOther] at found
    rw [lookup_assign, if_neg isOther]
    exact sound.singletons found
  oneFiber := sound.oneFiber
  resolving other resolution member := by
    have kept := sound.resolving other resolution member
    have free := unused.resolutions other resolution member
    simp only [ContainerRun.renewed, Container.bindings_register]
    refine ⟨?_, fun copied isCopied =>
      (kept.copied copied isCopied).rebind (free.2 copied isCopied) lifetime⟩
    rw [lookup_assign, if_neg free.1]
    exact kept.lifetime

end ContainerSound

variable {container : Container}

theorem Container.get_found {id : PhpString} {value : Nat}
    (found : container.get classExists fiber id = .found value) :
    container.singletons.lookup id = some value ∨ container.singletons.lookup id = none ∧
        ∃ scope, container.currentScope fiber = some scope ∧ scope.lookup id = some value := by
  rw [get] at found
  split at found
  next known =>
    cases found
    exact .inl known
  next unknown =>
  dsimp only at found
  split at found
  next entry =>
    cases found
    exact .inr ⟨unknown, bind_eq_some_iff.mp entry⟩
  split at found
  · cases found
  · split at found <;> cases found

theorem Container.get_builds {id : PhpString} {resolution : Resolution}
    (builds : container.get classExists fiber id = .builds resolution) :
    resolution = ⟨id, container.currentScope fiber, container.bindings.lookup id⟩ := by
  rw [get] at builds
  split at builds
  · cases builds
  dsimp only at builds
  split at builds
  · cases builds
  split at builds
  next bound =>
    cases builds
    rw [bound]
  next unbound =>
  split at builds
  · cases builds
    rw [unbound]
  · cases builds

theorem Container.keep_ok {after : Container} {fiber : FiberId}
    {resolution : Resolution} {value : Nat}
    (kept : container.keep fiber resolution value = .ok after) :
    (resolution.lifetime = some .singleton ∧
        after = container.registerInstance resolution.id value) ∨
      (resolution.lifetime = some .scoped ∧ ∃ copied, resolution.scope = some copied ∧
          after = container.replaceCurrentScope (copied.assign resolution.id value) fiber) ∨
      (resolution.lifetime ≠ some .singleton ∧
        resolution.lifetime ≠ some .scoped ∧ after = container) := by
  rw [keep] at kept
  split at kept
  next isSingleton =>
    cases kept
    exact .inl ⟨isSingleton, rfl⟩
  · cases kept
  next isScoped isCopied =>
    cases kept
    exact .inr (.inl ⟨isScoped, _, isCopied, rfl⟩)
  next notSingleton notScoped notCopied =>
  cases kept
  refine .inr (.inr ⟨fun isSingleton => notSingleton isSingleton, ?_, rfl⟩)
  intro isScoped
  cases isCopied : resolution.scope with
  | none => exact notScoped isScoped isCopied
  | some copied => exact notCopied copied isScoped isCopied

namespace ContainerSound

variable (sound : ContainerSound state)
include sound

variable {id : PhpString}

section

variable (found : state.container.get classExists fiber id = .found value)
include found

theorem found_scoped (isScoped : state.container.bindings.lookup id = some .scoped) :
    ∃ scope, state.container.currentScope fiber = some scope ∧ scope.lookup id = some value := by
  rcases Container.get_found found with known | ⟨_, entry⟩
  · exact absurd isScoped (sound.singletons known).1
  · exact entry

theorem found_singleton (isSingleton : state.container.bindings.lookup id = some .singleton) :
    state.container.singletons.lookup id = some value := by
  rcases Container.get_found found with known | ⟨_, scope, isScope, entry⟩
  · exact known
  · exact absurd isSingleton (sound.scopes fiber scope isScope entry).lifetime

theorem found_own (other : FiberId) (different : other ≠ fiber) :
    (other, value) ∉ state.scopedInstances := by
  rcases Container.get_found found with known | ⟨_, scope, isScope, entry⟩
  · exact (sound.singletons known).2 other
  intro isInstance
  exact different (sound.oneFiber (sound.scopes fiber scope isScope entry).isInstance isInstance)

end

theorem returned_scoped (may : MayReturn state fiber resolution value)
    (isScoped : resolution.lifetime = some .scoped) (isCopied : resolution.scope = some copied)
    (member : (id, earlier) ∈ state.returnedScoped fiber) :
    (copied.assign resolution.id value).lookup id = some earlier := by
  obtain ⟨_, scope, isScope, found⟩ := sound.returnedScoped member
  exact (may.ofScoped isScoped).2 copied isCopied scope isScope id earlier found

theorem returned_singleton (may : MayReturn state fiber resolution value)
    (isSingleton : resolution.lifetime = some .singleton)
    (member : (resolution.id, earlier) ∈ state.returnedSingleton) : earlier = value :=
  (may.ofSingleton isSingleton).2 earlier (sound.returnedSingleton member)

theorem kept {after : Container} {rest : List Resolution}
    (isOpen : state.resolving fiber = resolution :: rest)
    (may : MayReturn state fiber resolution value)
    (isKept : state.container.keep fiber resolution value = .ok after) :
    ContainerSound (((state.within fiber rest).kept after fiber resolution
      value).returned fiber resolution.id value) := by
  have isSound := sound.resolving fiber resolution (isOpen ▸ mem_cons_self)
  have closed := sound.close isOpen
  rcases Container.keep_ok isKept with ⟨isSingleton, rfl⟩ |
    ⟨isScoped, copied, isCopied, rfl⟩ | ⟨notSingleton, notScoped, rfl⟩
  · have lifetime := isSound.lifetime.symm.trans isSingleton
    have shared : ∀ other, (other, value) ∉ state.scopedInstances := by
      intro other
      by_cases same : other = fiber
      · exact same ▸ (may.ofSingleton isSingleton).1
      · exact may.own other same
    rw [ContainerRun.kept, if_neg (by rw [isSingleton]; decide)]
    refine ContainerSound.returned (closed.assigned ?_ shared
      (sound.returned_singleton may isSingleton)) ?_ ?_
    · change state.container.bindings.lookup resolution.id ≠ _
      rw [lifetime]
      decide
    · intro isScoped
      cases lifetime.symm.trans isScoped
    · simp [Container.registerInstance, lookup_assign]
  · have lifetime := isSound.lifetime.symm.trans isScoped
    rw [ContainerRun.kept, if_pos isScoped]
    refine ContainerSound.returned (closed.scopedIn may.own
      (may.ofScoped isScoped).1 ?_ (isSound.copied copied isCopied)
      (sound.returned_scoped may isScoped isCopied)) ?_ ?_
    · change state.container.bindings.lookup resolution.id ≠ _
      rw [lifetime]
      decide
    · intro _
      refine ⟨_, Container.currentScope_replaceCurrentScope .. |>.trans (if_pos rfl), ?_⟩
      rw [lookup_assign, if_pos rfl]
    · intro isSingleton
      simp only [ContainerRun.scopedIn, Container.bindings_replaceCurrentScope] at isSingleton
      cases lifetime.symm.trans isSingleton
  · rw [ContainerRun.kept, if_neg notScoped]
    refine ContainerSound.returned closed ?_ ?_
    · intro isScoped
      exact absurd (isSound.lifetime.trans isScoped) notScoped
    · intro isSingleton
      exact absurd (isSound.lifetime.trans isSingleton) notSingleton

theorem next (disciplined : Disciplined state call)
    (step : state.next classExists call = some target) : ContainerSound target := by
  cases call with
  | get fiber id =>
    rw [ContainerRun.next] at step
    split at step
    next found =>
      cases step
      exact sound.returned (sound.found_scoped found) (sound.found_singleton found)
    next builds =>
      cases step
      refine sound.within ?_
      intro other member
      rcases mem_cons.mp member with rfl | old
      · rw [Container.get_builds builds]
        exact ⟨rfl, sound.scopes fiber⟩
      · exact sound.resolving fiber other old
    · cases step
      exact sound
  | factoryReturns fiber value =>
    rw [ContainerRun.next] at step
    split at step
    · cases step
    next resolution rest isOpen =>
    have may := disciplined resolution (by rw [isOpen]; rfl)
    split at step
    · cases step
      exact sound.close isOpen
    next isKept =>
      cases step
      exact sound.kept isOpen may isKept
  | factoryThrows fiber =>
    rw [ContainerRun.next] at step
    split at step
    · cases step
    next isOpen =>
      cases step
      exact sound.close isOpen
  | register fiber id lifetime =>
    cases step
    exact sound.register disciplined fiber lifetime
  | registerInstance id value =>
    cases step
    refine (sound.forget id).assigned disciplined.1 disciplined.2 ?_
    intro earlier member
    obtain ⟨_, different⟩ := mem_filter.mp member
    exact absurd rfl (of_decide_eq_true different)
  | scopedInstance fiber id value =>
    rw [ContainerRun.next, Container.scopedInstance] at step
    cases isScope : state.container.currentScope fiber with
    | none =>
      rw [isScope] at step
      cases step
      exact sound
    | some scope =>
      rw [isScope] at step
      cases step
      refine sound.scopedIn disciplined.own disciplined.shared
        disciplined.lifetime (sound.scopes fiber scope isScope) ?_
      intro key earlier member
      obtain ⟨isScoped, current, isCurrent, found⟩ := sound.returnedScoped member
      cases isScope.symm.trans isCurrent
      rw [lookup_assign]
      split
      next same =>
        subst same
        rw [disciplined.ofScoped isScoped scope isScope earlier found]
      · exact found
  | beginScope fiber =>
    rw [ContainerRun.next, Container.beginScope] at step
    cases isScope : state.container.currentScope fiber with
    | some scope =>
      rw [isScope] at step
      cases step
      exact sound
    | none =>
      rw [isScope] at step
      cases step
      refine sound.freshScope (by simp) (by simp) ?_ ?_
      · intro other different
        rw [Container.currentScope_replaceCurrentScope, if_neg different]
      intro scope isNew
      rw [Container.currentScope_replaceCurrentScope, if_pos rfl] at isNew
      exact (some.inj isNew).symm
  | endScope fiber =>
    cases step
    refine sound.freshScope (by simp) (by simp) ?_ ?_
    · intro other different
      rw [Container.currentScope_endScope, if_neg different]
    intro scope isNew
    rw [Container.currentScope_endScope, if_pos rfl] at isNew
    cases isNew

end ContainerSound

theorem lifetimesKept_of_disciplined {state : ContainerRun}
    {call : ContainerCall} (sound : ContainerSound state) (disciplined : Disciplined state call) :
    LifetimesKept classExists state call := by
  intro fiber id value returns
  cases call with
  | get caller entry =>
    rw [ContainerRun.returns] at returns
    split at returns
    next found =>
      cases returns
      refine ⟨?_, ?_, sound.found_own found⟩
      · intro isScoped earlier member
        obtain ⟨_, scope, isScope, known⟩ := sound.returnedScoped member
        obtain ⟨_, same, entry⟩ := sound.found_scoped found isScoped
        cases isScope.symm.trans same
        exact some.inj (known.symm.trans entry)
      · intro isSingleton earlier member
        exact some.inj ((sound.returnedSingleton member).symm.trans
          (sound.found_singleton found isSingleton))
    · cases returns
  | factoryReturns caller result =>
    rw [ContainerRun.returns] at returns
    split at returns
    · cases returns
    next resolution rest isOpen =>
    split at returns
    · cases returns
    next isKept =>
    cases returns
    have may := disciplined resolution (by rw [isOpen]; rfl)
    have lifetime := (sound.resolving fiber resolution (isOpen ▸ mem_cons_self)).lifetime
    refine ⟨?_, ?_, may.own⟩
    · intro isScoped earlier member
      have ofScoped := lifetime.trans isScoped
      rcases Container.keep_ok isKept with ⟨isSingleton, _⟩ |
        ⟨_, copied, isCopied, _⟩ | ⟨_, notScoped, _⟩
      · cases ofScoped.symm.trans isSingleton
      · have found := sound.returned_scoped may ofScoped isCopied member
        rw [lookup_assign, if_pos rfl] at found
        exact (some.inj found).symm
      · exact absurd ofScoped notScoped
    · intro isSingleton earlier member
      exact sound.returned_singleton may (lifetime.trans isSingleton) member
  | factoryThrows caller | register caller entry lifetime
  | registerInstance entry given | scopedInstance caller entry given
  | beginScope caller | endScope caller => cases returns

theorem lifetimes_kept_of_disciplined (classExists : PhpString → Bool) (calls : List ContainerCall)
    (disciplined : ∀ transition ∈ (containerMachine classExists).transitions
        .initial calls, Disciplined transition.source transition.label) :
    ∀ transition ∈ (containerMachine classExists).transitions .initial calls,
      LifetimesKept classExists transition.source transition.label :=
  Machine.transitions_of_guarded _ ContainerSound Disciplined
    (fun state call _ => LifetimesKept classExists state call) (fun sound disciplined step =>
      ⟨sound.next disciplined step, lifetimesKept_of_disciplined sound disciplined⟩)
    .initial disciplined

/-- Two fibers with scopes resolve a scoped entry and a singleton, and find them. -/
def resolvedAndFound : List ContainerCall :=
  [.register none [65] .scoped, .register none [66] .singleton, .beginScope none,
    .beginScope (some 7), .get none [65], .get (some 7) [65], .factoryReturns (some 7) 1,
    .factoryReturns none 2, .get none [66], .factoryReturns none 3, .get (some 7) [66],
    .get (some 7) [65], .get none [65]]

theorem entries_found_again : ((containerMachine fun _ => false).transitions .initial
        resolvedAndFound).length = 13 ∧
      ∀ transition ∈ (containerMachine fun _ => false).transitions .initial resolvedAndFound,
        LifetimesKept (fun _ => false) transition.source transition.label := by
  have apart {instances : List (FiberId × Nat)} {value : Nat}
      (others : ∀ entry ∈ instances, entry.2 ≠ value) (fiber : FiberId) :
      (fiber, value) ∉ instances := fun member => others _ member rfl
  refine ⟨rfl, lifetimes_kept_of_disciplined _ resolvedAndFound ?_⟩
  iterate 2
    refine forall_mem_cons.mpr ⟨⟨?_, fun _ => forall_mem_nil _⟩, ?_⟩
    · intro fiber scope isScope
      cases fiber <;> cases isScope
  iterate 4 refine forall_mem_cons.mpr ⟨trivial, ?_⟩
  iterate 2
    refine forall_mem_cons.mpr ⟨?_, ?_⟩
    · rintro resolution ⟨⟩
      refine ⟨fun other _ => apart (by decide) other, nofun, fun _ => ⟨nofun, ?_⟩⟩
      rintro copied isCopied scope ⟨⟩ key known ⟨⟩
  refine forall_mem_cons.mpr ⟨trivial, forall_mem_cons.mpr ⟨?_, ?_⟩⟩
  · rintro resolution ⟨⟩
    exact ⟨fun other _ => apart (by decide) other, fun _ => ⟨apart (by decide) none, nofun⟩, nofun⟩
  iterate 3 refine forall_mem_cons.mpr ⟨trivial, ?_⟩
  exact forall_mem_nil _

/-- The factory of one scoped entry resolves another, which is lost with the
scope that is written back. -/
theorem nested_scoped_entry_lost :
    ∃ transition ∈ (containerMachine fun _ => false).transitions .initial
        [.register none [65] .scoped, .register none [66] .scoped,
          .beginScope none, .get none [65], .get none [66],
          .factoryReturns none 1, .factoryReturns none 2, .get none [66], .factoryReturns none 3],
      ¬ LifetimesKept (fun _ => false) transition.source transition.label := by
  refine ⟨_, mem_of_getElem? (i := 8) rfl, ?_⟩
  intro kept
  have same := (kept none [66] 3 rfl).inScope rfl 1 (by decide)
  cases same

end Pam.Api
