import Mathlib
import GuildCards.Proofs.Effect.Recompile
import GuildCards.Proofs.Play.Holdings

/-!
The numbers of a compiled clause. Each was read from a numeral of the text, and is one where there
is none; so none is below zero, and none has more digits than a numeral may have. What a cost is paid
from is a resource that can pay.
-/
namespace GuildCards.Effect
open Number

def Benefit.amounts (b : Benefit) : List Int := b.deltas.map (·.amount)

def Clause.amounts : Clause → List Int
  | .gain _ ds => ds.map (·.amount)
  | .conditional c => c.cost.amount :: (c.benefit :: c.nested).flatMap Benefit.amounts
  | .choice c => c.options.flatMap Benefit.amounts
  | .unrecognized _ => []

structure Legible (n : Int) : Prop where
  nonneg : 0 ≤ n
  short : n.natAbs < 10 ^ digitLimit

theorem digitValue_lt (c : Char) : (Text.digitValue? c).getD 0 < 10 := by
  unfold Text.digitValue?
  cases h : Text.digitZeros.find? fun z => z ≤ c.toNat && c.toNat < z + 10 with
  | none => simp
  | some z =>
    have hz := List.find?_some h
    simp only [Bool.and_eq_true, decide_eq_true_eq] at hz
    simp only [Option.map_some, Option.getD_some]
    omega

theorem decimal_lt (digits : List Char) : decimal digits < 10 ^ digits.length := by
  have h (n : Nat) : digits.foldl (fun n c => 10 * n + (Text.digitValue? c).getD 0) n <
      (n + 1) * 10 ^ digits.length := by
    induction digits generalizing n with
    | nil => simp
    | cons c cs ih =>
      have hc := digitValue_lt c
      calc cs.foldl _ (10 * n + (Text.digitValue? c).getD 0)
        _ < (10 * n + (Text.digitValue? c).getD 0 + 1) * 10 ^ cs.length := ih _
        _ ≤ (n + 1) * 10 * 10 ^ cs.length := Nat.mul_le_mul_right _ (by omega)
        _ = (n + 1) * 10 ^ (c :: cs).length := by rw [List.length_cons, pow_succ']; ring
  simpa [decimal] using h 0

theorem legible_natural {digits : List Char} {n : Nat} (h : natural digits = .ok n) :
    Legible (n : Int) := by
  unfold natural at h
  split at h
  · rename_i hlen
    obtain rfl := Except.ok.inj h
    exact ⟨Int.natCast_nonneg _,
      (decimal_lt digits).trans_le (Nat.pow_le_pow_right (by decide) hlen)⟩
  · cases h

theorem legible_one : Legible 1 :=
  ⟨by decide, Nat.one_lt_pow (by simp [digitLimit]) (by decide)⟩

theorem map_eq_ok {ε α β : Type} {f : α → β} {x : Except ε α} {b : β} :
    x.map f = .ok b ↔ ∃ a, x = .ok a ∧ b = f a := by
  cases x <;> simp [Except.map, eq_comm]

section Parts
variable {text : List Char} {ts : List Token} {b : Benefit} {bs : List Benefit} {n : Int}

theorem legible_amount (h : amount ts = .ok n) : Legible n := by
  unfold amount at h
  split at h
  · obtain ⟨m, hm, rfl⟩ := map_eq_ok.mp h
    obtain ⟨k, hk, hm⟩ := bind_eq_ok.mp hm
    exact pure_eq_ok.mp hm ▸ legible_natural hk
  · exact Except.ok.inj h ▸ legible_one

theorem legible_part {ds : List Delta} (h : part text ts = .ok ds) :
    ∀ d ∈ ds, Legible d.amount := by
  unfold part at h
  split at h
  · simp [← Except.ok.inj h]
  · simp [← Except.ok.inj h]
  · obtain ⟨m, hm, rfl⟩ := map_eq_ok.mp h
    simpa using legible_amount hm

theorem legible_benefit (h : benefit text ts = .ok b) : ∀ n ∈ b.amounts, Legible n := by
  obtain ⟨dss, hdss, h⟩ := bind_eq_ok.mp h
  obtain rfl := pure_eq_ok.mp h
  intro n hn
  obtain ⟨d, hd, rfl⟩ := List.mem_map.mp hn
  obtain ⟨ds, hds, hd⟩ := List.mem_flatten.mp hd
  obtain ⟨g, -, hg⟩ := exists_of_mem_mapM hdss hds
  exact legible_part hg d hd

theorem legible_alternatives (h : alternatives text ts = .ok bs) :
    ∀ n ∈ bs.flatMap Benefit.amounts, Legible n := by
  intro n hn
  obtain ⟨b, hb, hn⟩ := List.mem_flatMap.mp hn
  obtain ⟨g, -, hg⟩ := exists_of_mem_mapM h hb
  exact legible_benefit hg n hn

theorem legible_cost {cost : Cost} (h : cost? text ts = .ok (some cost)) : Legible cost.amount := by
  cases priced h with
  | discard hn => exact legible_amount hn
  | pay hn _ => exact legible_amount hn

theorem payable_cost {cost : Cost} {r : Resource} (h : cost? text ts = .ok (some cost))
    (hr : cost.resource = some r) : isPayable r = true := by
  cases priced h with
  | discard _ => cases hr
  | pay _ hpay =>
    obtain rfl := Option.some.inj hr
    exact hpay

end Parts

section Clauses
variable {text : List Char} {ts : List Token} {c : Clause}

theorem legible_clause (h : clause text ts = .ok c) : ∀ n ∈ c.amounts, Legible n := by
  cases compiledFrom h with
  | unrecognized => simp [Clause.amounts]
  | gain hb _ => exact legible_benefit hb
  | choice hoptions _ _ => exact legible_alternatives hoptions
  | conditional _ _ harrowed =>
    cases harrowed with
    | nested _ hcost _ hnested _ =>
      simp only [Clause.amounts, List.flatMap_cons, Benefit.amounts, List.map_nil, List.nil_append,
        List.forall_mem_cons]
      exact ⟨legible_cost hcost, legible_alternatives hnested⟩
    | single _ _ hcost hb _ =>
      simp only [Clause.amounts, List.flatMap_cons, List.flatMap_nil, List.append_nil,
        List.forall_mem_cons]
      exact ⟨legible_cost hcost, legible_benefit hb⟩

theorem payable_clause {x : Conditional} {r : Resource} (h : clause text ts = .ok (.conditional x))
    (hr : x.cost.resource = some r) : isPayable r = true := by
  cases compiledFrom h with
  | conditional _ _ harrowed =>
    cases harrowed with
    | nested _ hcost _ _ _ => exact payable_cost hcost hr
    | single _ _ hcost _ _ => exact payable_cost hcost hr

theorem payable_of_mem_clauses {text : String} {prog : Program} {x : Conditional} {r : Resource}
    (h : Program.compile text = .ok prog) (hx : .conditional x ∈ prog.clauses)
    (hr : x.cost.resource = some r) : isPayable r = true := by
  obtain ⟨ts, -, -, -, hclause⟩ := exists_of_mem_clauses h hx
  exact payable_clause hclause hr

theorem legible_of_mem_clauses {text : String} {prog : Program}
    (h : Program.compile text = .ok prog) (hc : c ∈ prog.clauses) : ∀ n ∈ c.amounts, Legible n := by
  obtain ⟨ts, -, -, -, hclause⟩ := exists_of_mem_clauses h hc
  exact legible_clause hclause

end Clauses

end GuildCards.Effect

namespace GuildCards
open Effect

theorem Card.legible {ι : Type} {c : Card ι} {t : Tier} {x : Clause} (h : x ∈ c.clausesAt t) :
    ∀ n ∈ x.amounts, Legible n := by
  rcases List.mem_append.mp h with h | h
  · exact legible_of_mem_clauses (c.power.get t).compiled h
  · exact legible_of_mem_clauses c.bonus.compiled h

theorem Card.payable {ι : Type} {c : Card ι} {t : Tier} {x : Conditional} {r : Resource}
    (h : .conditional x ∈ c.clausesAt t) (hr : x.cost.resource = some r) : isPayable r = true := by
  rcases List.mem_append.mp h with h | h
  · exact payable_of_mem_clauses (c.power.get t).compiled h hr
  · exact payable_of_mem_clauses c.bonus.compiled h hr

end GuildCards
