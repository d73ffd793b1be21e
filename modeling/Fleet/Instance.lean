/-
  Fleet/Instance.lean
  ===================
  **Running instances of the registry.**

  A plan says which file an instance reads, under which terms it works, whether it follows
  changes of the file and who may make changes.  To start, the file must load and its snapshot
  must be synced; after that the instance serves requests, and follows the file if that is
  planned.
-/
import Fleet.Service
import Fleet.Watch

namespace Fleet

open Fleet.Config

structure Plan where
  file : String := Settings.defaultClusterFile
  terms : Terms := ⟨Duration.ofSecs 300, .unset⟩
  watch : Bool := true
  policy : Policy := .everyone

structure Instance where
  service : Service
  source : Source
  /-- The loop that follows the file, if it is followed. -/
  loop : Option Watch.Loop
  reloads : Nat

namespace Plan

/-- The plan with everything taken from the settings.  Without a list of service accounts in
    them the policy stays. -/
def withSettings (p : Plan) (s : Settings) : Plan :=
  { file := s.clusterFile
    terms := ⟨s.timeout, s.isolation⟩
    watch := s.watch
    policy := match s.accounts with
      | some names => .only names
      | none => p.policy }

inductive Fault where
  | noStore
  | noTime
  | unloaded (path : String) (why : Config.Fault)
  | unsynced (why : Error)

/-- The fault and everything beneath it, in words. -/
def Fault.chain : Fault → List String
  | noStore => ["store is required"]
  | noTime => ["transaction_timeout must be greater than zero"]
  | unloaded path why =>
    ("failed to load cluster configuration from " ++ path) :: why.message :: why.cause?.toList
  | unsynced why => "initial cluster synchronization failed" :: why.chain

def fileName (path : String) : String :=
  String.ofList (path.toList.reverse.takeWhile (· ≠ '/')).reverse

/-- The registry on which an instance can work, if there is one and it is given time. -/
def check (p : Plan) : Option Registry → Except Fault Registry
  | none => .error .noStore
  | some r => if p.terms.timeout.nanos = 0 then .error .noTime else .ok r

/-- Starts an instance on a registry, with what is found at the path of its file. -/
def start (p : Plan) (f : File) (r : Registry) : Except Fault Instance × Registry :=
  match Source.load p.file f with
  | .error why => (.error (.unloaded p.file why), r)
  | .ok source =>
    match r.sync p.terms source.snapshot with
    | (.error why, r) => (.error (.unsynced why), r)
    | (.ok _, r) =>
      (.ok {
        service := ⟨p.terms, p.policy⟩
        source
        loop := if p.watch then some (Watch.Loop.start (fileName p.file)) else none
        reloads := 0 }, r)

end Plan

namespace Instance

/-- A notice of the file system reaches the instance. -/
def notice (i : Instance) (n : Watch.Notice) : Instance :=
  { i with loop := i.loop.map (·.deliver n) }

/-- Lets the instance deal with the notices that have come. -/
def settle (i : Instance) (f : File) (r : Registry) : Instance × Registry :=
  match i.loop with
  | none => (i, r)
  | some l =>
    let (l, s) := Watch.settle i.service.terms f l ⟨i.source, r, i.reloads⟩
    ({ i with loop := some l, source := s.source, reloads := s.reloads }, s.registry)

end Instance

end Fleet
