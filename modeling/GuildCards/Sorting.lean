/-!
Sorting by a comparison that may fail. The first failure met is the outcome, so it matters what is
compared with what: items are taken as they stand for as long as they go down, or do not, and each
item after that is put in its place by halving. Items that are level keep their order.
-/
namespace GuildCards.Sorting
variable {α ε : Type}

/-- The items at the front of which each is before the last one, or each is not; and the rest. -/
def run (before : α → α → Except ε Bool) (down : Bool) (last : α) :
    List α → Except ε (List α × List α)
  | [] => .ok ([], [])
  | a :: as => do
    if (← before a last) = down then
      let (front, rest) ← run before down a as
      pure (a :: front, rest)
    else pure ([], a :: as)

def insert (before : α → α → Except ε Bool) (a : α) (sorted : List α) : Except ε (List α) :=
  match h : sorted.drop (sorted.length / 2) with
  | [] => .ok [a]
  | b :: above => do
    have : above.length < sorted.length - sorted.length / 2 := by
      rw [← List.length_drop, h]
      exact Nat.lt_succ_self _
    have : sorted.length / 2 < sorted.length := by omega
    let below := sorted.take (sorted.length / 2)
    if ← before a b then pure ((← insert before a below) ++ b :: above)
    else pure (below ++ b :: (← insert before a above))
termination_by sorted.length
decreasing_by
  · simp only [List.length_take]
    omega
  · omega

def sort (before : α → α → Except ε Bool) : List α → Except ε (List α)
  | a :: b :: as => do
    let down ← before b a
    let (front, rest) ← run before down b as
    let first := a :: b :: front
    rest.foldlM (fun sorted c => insert before c sorted) (if down then first.reverse else first)
  | as => .ok as

end GuildCards.Sorting
