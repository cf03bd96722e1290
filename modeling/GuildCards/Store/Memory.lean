import GuildCards.Store

/-!
The store that keeps the states themselves. Every id will do, and ids are listed in the order in which
they were first saved.
-/
namespace GuildCards

structure MemoryStore (ι ν : Type) where
  games : Keyed (State ι ν) := []

instance {ι ν : Type} : Store (MemoryStore ι ν) ι ν where
  load _ s id := .ok (s.games.get? id)
  save s id g := .ok ⟨s.games.put id g⟩
  delete s id := .ok ⟨s.games.erase id⟩
  ids s := s.games.names

end GuildCards
