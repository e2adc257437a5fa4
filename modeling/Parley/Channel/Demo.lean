/-
The demonstration agent: a store of properties behind a dispatcher.

It answers pings, lists and sets its properties, of which none has an empty
key, and lists its loaders and threads. All other requests have no handler.
-/
import Parley.Channel.Dispatcher

namespace Parley.Demo

/-- What distinguishes one demonstration agent from another. -/
structure Identity where
  version : String
  architecture : String
  system : String
  processId : Nat
  threads : List ThreadInfo

/-- The properties that the agent starts with. -/
def initialProperties (i : Identity) : PropertyTable :=
  .ofList [("agent.name", "agentwire"), ("agent.version", i.version), ("os.arch", i.architecture),
    ("os.name", i.system), ("process.id", toString i.processId)]

/-- The loaders of the agent. -/
def loaders : List LoaderInfo := [⟨bootstrapLoader, "bootstrap"⟩, ⟨systemLoader, "system"⟩]

/-- Sets a property with a key that is not empty. -/
def setProperty (store : PropertyTable) (p : SetProperty) : PropertyTable × Handled Unit :=
  if p.key.isEmpty then (store, .failed "property key must not be empty")
  else (store.set p.key p.value, .reply ())

/-- The dispatcher of the agent, acting on its properties. -/
def dispatcher (i : Identity) : Dispatcher PropertyTable :=
  Dispatcher.empty
    |>.register .ping (fun store _ => (store, .reply ()))
    |>.register .getProperties (fun store _ => (store, .reply store))
    |>.register .setProperty setProperty
    |>.register .getClassLoaders (fun store _ => (store, .reply loaders))
    |>.register .getThreads (fun store _ => (store, .reply i.threads))

end Parley.Demo
