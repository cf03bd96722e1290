import Mathlib
import GuildCards.Proofs.Play.Questions

/-!
The ledger of a game. Every accepted move is entered once, with its turn, its player, what it grants
at that moment and what is paid for it. The balance of a counter is what the entries granted less
what they paid and less the moves that used up a credit of it.
-/
namespace GuildCards
open Document Effect

def amountOf (x : Resource) (ds : List Delta) : Int :=
  (ds.map fun d => if d.resource = x then d.amount else 0).sum

theorem amountOf_append (x : Resource) (ds es : List Delta) :
    amountOf x (ds ++ es) = amountOf x ds + amountOf x es := by
  rw [amountOf, List.map_append, List.sum_append]
  rfl

theorem amountOf_eq_zero {x : Resource} {ds : List Delta} (h : ∀ d ∈ ds, d.resource ≠ x) :
    amountOf x ds = 0 := by
  refine List.sum_eq_zero fun n hn => ?_
  obtain ⟨d, hd, rfl⟩ := List.mem_map.mp hn
  exact if_neg (h d hd)

theorem amountOf_nonneg {ds : List Delta} (h : ∀ d ∈ ds, 0 ≤ d.amount) (x : Resource) :
    0 ≤ amountOf x ds := by
  refine List.sum_nonneg fun n hn => ?_
  obtain ⟨d, hd, rfl⟩ := List.mem_map.mp hn
  split_ifs
  · exact h d hd
  · exact le_rfl

namespace Player

theorem holds_granted (p : Player String Int) (d : Delta) (x : Resource) :
    (p.granted d).holds x = p.holds x + if d.resource = x then d.amount else 0 := by
  obtain ⟨y, n⟩ := d
  cases y with
  | army => cases x <;> simp [granted, holds]
  | counter c =>
    cases x with
    | army => simp [granted, holds]
    | counter d =>
      simp only [granted, holds, Counters.get_set, Resource.counter.injEq, eq_comm (a := d)]
      split_ifs with h
      · rw [h]
      · rw [add_zero]

theorem holds_grantedAll (p : Player String Int) (ds : List Delta) (x : Resource) :
    (p.grantedAll ds).holds x = p.holds x + amountOf x ds := by
  induction ds generalizing p with
  | nil => exact (add_zero _).symm
  | cons d ds ih =>
    change ((p.granted d).grantedAll ds).holds x = _
    rw [ih, holds_granted, add_assoc]
    rfl

end Player

/-- What paying a cost takes. Cards are discarded one by one, so nothing is paid at once. -/
def Effect.Cost.payment (c : Cost) : List Delta :=
  match c.kind, c.resource with
  | .pay, some r => [⟨r, c.amount⟩]
  | _, _ => []

theorem Player.holds_paid (p : Player String Int) (c : Cost) (x : Resource) :
    (p.paid c).holds x = p.holds x - amountOf x c.payment := by
  obtain ⟨kind, text, n, resource⟩ := c
  cases kind with
  | discard => exact (sub_zero _).symm
  | pay =>
    cases resource with
    | none => exact (sub_zero _).symm
    | some r =>
      change (p.granted ⟨r, -n⟩).holds x = _
      rw [holds_granted]
      simp only [amountOf, Cost.payment, List.map_cons, List.map_nil, List.sum_cons, List.sum_nil]
      split_ifs <;> omega

/-- An accepted move: what it granted and what was paid for it, in which turn. -/
structure Entry where
  turn : Int
  player : String
  kind : MoveKind
  granted : List Delta
  paid : List Delta

abbrev Ledger := List Entry

namespace MoveKind
variable {k l : MoveKind} {c : Counter}

theorem not_lasts_of_credit (h : k.credit? = some c) : c.lasts = false := by
  cases k <;> cases h <;> rfl

theorem eq_of_credit (hk : k.credit? = some c) (hl : l.credit? = some c) : k = l := by
  cases k <;> cases hk <;> cases l <;> cases hl <;> rfl

end MoveKind

namespace Ledger

def ofPlayer (es : Ledger) (player : String) : Ledger := es.filter fun e => e.player = player

def inTurn (es : Ledger) (turn : Int) : Ledger := es.filter fun e => e.turn = turn

def granted (es : Ledger) (c : Counter) : Int := amountOf (.counter c) (es.flatMap (·.granted))

def paid (es : Ledger) (c : Counter) : Int := amountOf (.counter c) (es.flatMap (·.paid))

def count (es : Ledger) (k : MoveKind) : Nat := es.countP fun e => e.kind = k

def used (es : Ledger) (c : Counter) : Nat := es.countP fun e => e.kind.credit? = some c

def balance (es : Ledger) (c : Counter) : Int := es.granted c - es.paid c - es.used c

variable {es : Ledger} {e : Entry} {c : Counter}

@[simp] theorem balance_nil (c : Counter) : balance [] c = 0 := rfl

theorem balance_singleton (e : Entry) (c : Counter) :
    balance [e] c = amountOf (.counter c) e.granted - amountOf (.counter c) e.paid -
      if e.kind.credit? = some c then 1 else 0 := by
  simp [balance, granted, paid, used, List.countP_singleton]

theorem balance_append (es fs : Ledger) (c : Counter) :
    balance (es ++ fs) c = es.balance c + fs.balance c := by
  simp only [balance, granted, paid, used, List.flatMap_append, amountOf_append,
    List.countP_append, Nat.cast_add]
  ring

theorem balance_of_unused (hc : ∀ k : MoveKind, k.credit? ≠ some c) :
    es.balance c = es.granted c - es.paid c := by
  have hused : es.used c = 0 := by
    rw [used, List.countP_eq_zero]
    exact fun e _ he => hc e.kind (of_decide_eq_true he)
  rw [balance, hused]
  exact sub_zero _

/-- Where nothing is paid from a counter, its balance is what was granted less the moves that used it. -/
theorem balance_of_credit {k : MoveKind} (hk : k.credit? = some c) (hpaid : es.paid c = 0) :
    es.balance c = es.granted c - es.count k := by
  have hsame : es.used c = es.count k := by
    refine List.countP_congr fun e _ => ?_
    rw [decide_eq_true_eq, decide_eq_true_eq]
    exact ⟨fun he => MoveKind.eq_of_credit he hk, fun he => he ▸ hk⟩
  rw [balance, hpaid, hsame, sub_zero]

theorem ofPlayer_append_self (es : Ledger) (e : Entry) :
    ofPlayer (es ++ [e]) e.player = es.ofPlayer e.player ++ [e] := by
  simp [ofPlayer]

theorem ofPlayer_append_of_ne {player : String} (h : e.player ≠ player) :
    ofPlayer (es ++ [e]) player = es.ofPlayer player := by
  simp [ofPlayer, h]

theorem inTurn_append_self (es : Ledger) (e : Entry) :
    inTurn (es ++ [e]) e.turn = es.inTurn e.turn ++ [e] := by
  simp [inTurn]

theorem inTurn_of_lt {turn : Int} (h : ∀ e ∈ es, e.turn < turn) : es.inTurn turn = [] := by
  rw [inTurn, List.filter_eq_nil_iff]
  intro e he
  simpa using (h e he).ne

end Ledger

namespace State

/-- The conditional that a move pays for at once. -/
def paidFor? (s : State String Int) (m : Move) : Option Conditional :=
  if m.accept.truthy then s.conditionals.head?.filter fun c => c.cost.kind = .pay else none

theorem mem_of_paidFor? {s : State String Int} {m : Move} {x : Conditional}
    (h : s.paidFor? m = some x) : x ∈ s.conditionals := by
  unfold paidFor? at h
  split_ifs at h
  exact List.mem_of_head? (Option.filter_eq_some_iff.mp h).1

/-- The benefit of an answer that brings one at once. -/
def answered? (s : State String Int) (m : Move) : Option Benefit :=
  let name := m.choice.text?.getD ""
  match m.kind with
  | .resolveChoice => s.choices[(m.intent.getD 0).toNat]?.bind fun c => c.find? name
  | .resolveConditional =>
    (s.paidFor? m).bind fun c => if c.nested = [] then some c.benefit else c.find? name
  | _ => none

/-- What a move that leads to a state grants: the gains of a card and of its bonus, the benefit of an
answer, or the deferred benefit when its last discard is made. -/
def grants (s : State String Int) (m : Move) (t : State String Int) : List Delta :=
  match m.kind with
  | .expand => ((s.expansion? m).map fun x => grantsOf (x.card.clausesAt x.tier)).getD []
  | .discard => if t.deferred = none then (s.deferred.map (·.benefit.deltas)).getD [] else []
  | _ => ((s.answered? m).map (·.deltas)).getD []

def pays (s : State String Int) (m : Move) : List Delta :=
  match m.kind with
  | .resolveConditional => ((s.paidFor? m).map (·.cost.payment)).getD []
  | _ => []

def entry (s : State String Int) (m : Move) (t : State String Int) : Entry where
  turn := s.turn
  player := m.player.text?.getD ""
  kind := m.kind
  granted := s.grants m t
  paid := s.pays m

theorem MayMove.entry_player {s : State String Int} {p : Player String Int} {m : Move}
    (h : s.MayMove m p) (t : State String Int) : (s.entry m t).player = p.id := by
  rw [entry, h.named]
  rfl

def entries (rules : Rulebook String) (shuffle : Shuffler String Int) (s : State String Int) :
    Step → Ledger
  | .move m =>
    match s.play rules shuffle m with
    | .ok r => [s.entry m r.state]
    | .error _ => []
  | .close => []
  | .stamp _ _ => []

def ledger (rules : Rulebook String) (shuffle : Shuffler String Int) (s : State String Int) :
    List Step → Ledger
  | [] => []
  | x :: xs => s.entries rules shuffle x ++ (s.after rules shuffle x).ledger rules shuffle xs

end State

end GuildCards
