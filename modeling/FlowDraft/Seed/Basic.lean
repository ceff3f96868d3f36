import FlowDraft.Sample.Basic
import FlowDraft.Store.Memory

/-!
# `FlowDraft.Seed.Basic`: indexing samples in memory

`MemoryStore.seed` is `seed_examples`.
-/

set_option autoImplicit false

namespace FlowDraft

namespace MemoryStore

/-- The store with the documents of samples. With `recreate` they replace the ones that are
there. -/
def seed (s : MemoryStore) (recreate : Bool) (samples : List Sample) :
    MemoryStore × Option Store.EmbedError :=
  (if recreate then s.clear else s).add (samples.map Sample.toDocument)

end MemoryStore

end FlowDraft
