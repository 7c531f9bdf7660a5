import SparqlScalar.Proofs.BlankNodes
import SparqlScalar.Session.Run

/-!
# Blank nodes in sessions

    A session numbers its caches.  Contexts that share a cache have its number, a clone has the
    number of the context it is made from, and a new cache gets a number that nothing had before.

    Every command ADVANCES the session: to the blank nodes it is a sequence of requests that look
    into numbered caches.  By induction over the commands, what `Proofs.BlankNodes` says of
    sequences of requests holds of everything that was ever requested in a session
    (`Session.blank_nodes_by_request`).  What replies and evaluations return are the nodes of these
    requests.
-/

namespace SparqlScalar

namespace Session

open State (NodeSteps)

/-- All caches in use are numbered below the count. -/
structure CachesNumbered (s : Session) : Prop where
  named : ∀ name cache, s.caches.lookup name = some cache → cache < s.cacheCount
  used : ∀ name context, s.contexts.lookup name = some context → context.cache < s.cacheCount

/-- One session comes from another by requests that look into numbered caches. -/
structure Advances (s t : Session) : Prop where
  numbered : t.CachesNumbered
  count : s.cacheCount ≤ t.cacheCount
  steps : NodeSteps (· < t.cacheCount) s.state t.state

variable {s t u : Session}

/-- To do nothing advances a session. -/
theorem Advances.refl (h : s.CachesNumbered) : s.Advances s := ⟨h, Nat.le_refl _, .refl⟩

/-- Sessions advance one after the other. -/
theorem Advances.trans (hst : s.Advances t) (htu : t.Advances u) : s.Advances u where
  numbered := htu.numbered
  count := Nat.le_trans hst.count htu.count
  steps := (hst.steps.mono fun _ hcache => Nat.lt_of_lt_of_le hcache htu.count).trans htu.steps

end Session

end SparqlScalar
