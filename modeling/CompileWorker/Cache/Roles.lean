import CompileWorker.Cache.Basic

namespace CompileWorker

structure RoleCaches where
  tooling : EnvironmentCache := { role := .tooling }
  compile : EnvironmentCache := { role := .compile }

namespace RoleCaches

def get (caches : RoleCaches) : Role → EnvironmentCache
  | .tooling => caches.tooling
  | .compile => caches.compile

def set (caches : RoleCaches) (role : Role) (cache : EnvironmentCache) : RoleCaches :=
  match role with
  | .tooling => { caches with tooling := cache }
  | .compile => { caches with compile := cache }

variable {σ : Type} [Guests σ]

def acquire (caches : RoleCaches) (role : Role) (key : DigestMap) (classpath : List String)
    (w : World σ) : Except CacheError Acquisition × RoleCaches × World σ :=
  let (result, cache, w) := (caches.get role).acquire key classpath w
  (result, caches.set role cache, w)

def invoke (caches : RoleCaches) (role : Role) (entryPoint payload : String) (w : World σ) :
    Except EnvironmentError Invocation × RoleCaches × World σ :=
  let (result, cache, w) := (caches.get role).invoke entryPoint payload w
  (result, caches.set role cache, w)

def discard (caches : RoleCaches) (role : Role) (w : World σ) : Bool × RoleCaches × World σ :=
  let (existed, cache, w) := (caches.get role).discard w
  (existed, caches.set role cache, w)

def discardAll (caches : RoleCaches) (w : World σ) : Nat × RoleCaches × World σ :=
  let (first, caches, w) := caches.discard .tooling w
  let (second, caches, w) := caches.discard .compile w
  (first.toNat + second.toNat, caches, w)

end RoleCaches

end CompileWorker
