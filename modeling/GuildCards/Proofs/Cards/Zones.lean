import Mathlib
import GuildCards.Play.Apply
import GuildCards.Proofs.Play.Accepted

/-!
Cards in zones and piles. Where no two cards share an id, finding and removing a card by its id is
finding and removing that card, so each way of moving cards keeps them all.
-/
namespace GuildCards
open Document

/-- No two cards share an id. -/
def Distinct (cards : List (Card String)) : Prop := (cards.map (·.id)).Nodup

theorem Distinct.sublist {as bs : List (Card String)} (h : Distinct bs) (hs : as.Sublist bs) :
    Distinct as := List.Nodup.sublist (hs.map _) h

theorem Distinct.perm {as bs : List (Card String)} (h : Distinct as) (hp : as.Perm bs) :
    Distinct bs := (hp.map _).nodup_iff.mp h

theorem Distinct.nodup {as : List (Card String)} (h : Distinct as) : as.Nodup :=
  List.Nodup.of_map _ h

theorem Distinct.eq_of_id {as : List (Card String)} (h : Distinct as) {c d : Card String}
    (hc : c ∈ as) (hd : d ∈ as) (hid : c.id = d.id) : c = d := List.inj_on_of_nodup_map h hc hd hid

namespace Zone
variable {z : Zone String} {c : Card String} {v : Value}

theorem named?_eq_some (h : z.named? v = some c) : c ∈ z ∧ v = .text c.id := by
  have hid : Datum.is c.id v = true := by simpa using List.find?_some h
  exact ⟨List.mem_of_find?_eq_some h, is_iff.mp hid⟩

theorem named?_of_mem (hz : Distinct z) (hc : c ∈ z) : z.named? (.text c.id) = some c := by
  cases hf : z.named? (.text c.id) with
  | none =>
    have := List.find?_eq_none.mp hf c hc
    simp at this
  | some d =>
    obtain ⟨hd, hid⟩ := named?_eq_some hf
    rw [hz.eq_of_id hd hc (Value.text.inj hid).symm]

theorem mem_of_named (h : State.named z v = some c) : c ∈ z := (named?_eq_some h).1

theorem remove_eq_filter (hz : Distinct z) (hc : c ∈ z) : z.remove c = z.filter fun d => d ≠ c := by
  apply List.filter_congr
  intro d hd
  rw [Datum.same_text, Bool.eq_iff_iff]
  simp only [Bool.not_eq_true', decide_eq_false_iff_not, decide_eq_true_eq, ne_eq, not_iff_not]
  exact ⟨fun h => hz.eq_of_id hd hc h, fun h => h ▸ rfl⟩

theorem perm_cons_remove (hz : Distinct z) (hc : c ∈ z) : z.Perm (c :: z.remove c) := by
  rw [remove_eq_filter hz hc]
  have hne : (fun d => decide (d ≠ c)) = fun d => d != c := by
    funext d
    rw [Bool.eq_iff_iff]
    simp
  rw [hne, ← hz.nodup.erase_eq_filter]
  exact List.perm_cons_erase hc

end Zone

theorem Rulebook.card?_of_mem {rules : Rulebook String} {c : Card String}
    (hd : Distinct rules.cards) (hc : c ∈ rules.cards) : rules.card? (.text c.id) = some c := by
  have hrev : Distinct rules.cards.reverse := hd.perm (List.reverse_perm _).symm
  exact Zone.named?_of_mem hrev (List.mem_reverse.mpr hc)

namespace Piles

theorem perm_cards_put (ps : Piles String) (g : Guild) (c : Card String) :
    (ps.set g (ps.get g ++ [c])).cards.Perm (c :: ps.cards) := by
  rw [List.perm_iff_count]
  intro a
  cases g <;>
    simp only [cards, Guild.all, List.flatMap_cons, List.flatMap_nil, get_set, reduceCtorEq,
      if_true, if_false, List.count_append, List.count_cons, List.count_nil] <;> omega

theorem perm_cards_base (ps : Piles String) :
    ps.cards.Perm
      ((ps.map Pile.base).cards ++ Guild.all.flatMap fun g => Pile.aboveBase (ps.get g)) := by
  have hcut (g : Guild) (a : Card String) :
      (ps.get g).count a =
        (Pile.base (ps.get g)).count a + (Pile.aboveBase (ps.get g)).count a := by
    rw [← List.count_append, Pile.base, Pile.aboveBase, List.take_append_drop]
  rw [List.perm_iff_count]
  intro a
  simp only [cards, Guild.all, List.flatMap_cons, List.flatMap_nil, get_map, List.count_append,
    List.count_nil, hcut]
  omega

end Piles
end GuildCards
