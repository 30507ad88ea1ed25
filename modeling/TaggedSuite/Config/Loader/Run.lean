import TaggedSuite.Config.Loader

/-!
# Runs of a loader

A run is a sequence of calls on one loader, between which the files may change. Each call has one
answer.
-/
namespace TaggedSuite.Loader

/-- A call on a loader, or a change of the files. -/
inductive Action where
  | load (file : String) (o : LoadOptions)
  | loadBase
  | loadOverlays
  | available
  | resolve (name : String)
  | clearCache
  | change (disk : Disk)

/-- What a call gives. -/
inductive Answer where
  | reading (r : Reading)
  | base (settings : Entries)
  | overlays (overlays : Overlays)
  | names (names : List String)
  | config (c : RunConfig)
  | done

def perform (l : Loader) (host : Host) : Action → Loading Answer
  | .load file o => (l.load host.disk file o).map .reading
  | .loadBase => (l.loadBase host.disk).map .base
  | .loadOverlays => (l.loadOverlays host).map .overlays
  | .available => ⟨l, [], .ok (.names (l.available host.disk))⟩
  | .resolve name => (l.resolve host name).map .config
  | .clearCache => ⟨l.clearCache, [], .ok .done⟩
  | .change _ => ⟨l, [], .ok .done⟩

/-- The files and variables after a call. -/
def hostAfter (host : Host) : Action → Host
  | .change disk => { host with disk }
  | _ => host

/-- Runs calls in order. Each is given with the files and variables at its time and what came of it.
-/
def run (l : Loader) (host : Host) : List Action → List (Host × Action × Loading Answer)
  | [] => []
  | a :: rest =>
    let x := l.perform host a
    (host, a, x) :: run x.loader (hostAfter host a) rest

end TaggedSuite.Loader
