import Mathlib
import GuildCards.Proofs.Document.Numerals
import GuildCards.Proofs.Shuffle.Places
import GuildCards.Proofs.Play.Seats

/-!
Shuffling. A shuffle by seed moves places only, so it gives back the cards that it was given. It fails
only where its label cannot be written, so it comes about as long as the seed and the number of the
shuffle have no more digits than a text may show; the number of the shuffle counts the moves at most.
-/
namespace GuildCards
open Document

/-- What a shuffle gives back are the cards that it was given. -/
def Permutes (shuffle : Shuffler String Int) : Prop :=
  ∀ seed count cards shuffled, shuffle seed count cards = .ok shuffled → shuffled.Perm cards

theorem permutes_seeded : Permutes Shuffle.seeded := by
  intro seed count cards shuffled h
  obtain ⟨label, -, h⟩ := bind_eq_ok.mp h
  obtain rfl := pure_eq_ok.mp h
  exact Shuffle.labelled_perm label cards

theorem permutes_unshuffled : Permutes unshuffled := by
  intro _ _ cards shuffled h
  exact Except.ok.inj h ▸ .rfl

theorem half?_of_lt {c : Char} (h : c.toNat < Text.halfOffset) : Text.half? c = none := by
  have hle : decide (Text.halfOffset ≤ c.toNat) = false := decide_eq_false (not_le.mpr h)
  rw [Text.half?, hle, Bool.and_false, if_neg Bool.false_ne_true]

theorem halves?_eq_none {s : List Char} (h : ∀ c ∈ s, c.toNat < Text.halfOffset) :
    Text.halves? s = none := by
  have hdrop : (s.dropWhile fun c => (Text.half? c).isNone) = [] := by
    rw [List.dropWhile_eq_nil_iff]
    intro c hc
    rw [half?_of_lt (h c hc), Option.isNone_none]
  rw [Text.halves?, hdrop]

theorem toNat_of_mem_toString (n : Int) : ∀ c ∈ (toString n).toList, c.toNat < Text.halfOffset :=
  fun c hc => (printable_toString n c hc).2.trans (by decide)

theorem label_eq (seed count : Int) :
    Shuffle.label seed count =
      if (Value.int seed).isWritable && (Value.int count).isWritable then
        .ok (toString seed ++ ":" ++ toString count)
      else .error .tooLongToWrite := by
  have hnone : Text.halves? (toString seed ++ ":" ++ toString count).toList = none := by
    apply halves?_eq_none
    rw [String.toList_append, String.toList_append, List.forall_mem_append, List.forall_mem_append]
    exact ⟨⟨toNat_of_mem_toString seed, by simp [Text.halfOffset]⟩, toNat_of_mem_toString count⟩
  have hplain (n : Int) : (Value.int n).plain = toString n := rfl
  have hvalue (n : Int) : Datum.value n = .int n := rfl
  rw [Shuffle.label, hvalue, hvalue, Value.wording, Value.wording, hplain, hplain]
  cases (Value.int seed).isWritable with
  | false => rfl
  | true =>
    cases (Value.int count).isWritable with
    | false => rfl
    | true =>
      simp only [Bool.and_self, if_true, ok_bind, hnone]
      rfl

section Seeded
variable {α : Type} {seed count : Int}

theorem seeded_eq (hseed : (Value.int seed).isWritable = true)
    (hcount : (Value.int count).isWritable = true) (as : List α) :
    Shuffle.seeded seed count as =
      .ok (Shuffle.labelled (toString seed ++ ":" ++ toString count) as) := by
  rw [Shuffle.seeded, label_eq, hseed, hcount]
  rfl

theorem exists_seeded (hseed : (Value.int seed).isWritable = true)
    (hcount : (Value.int count).isWritable = true) (as : List α) :
    ∃ shuffled, Shuffle.seeded seed count as = .ok shuffled := ⟨_, seeded_eq hseed hcount as⟩

theorem seeded_eq_error
    (h : (Value.int seed).isWritable = false ∨ (Value.int count).isWritable = false) (as : List α) :
    Shuffle.seeded seed count as = .error .tooLongToWrite := by
  have hnot : ((Value.int seed).isWritable && (Value.int count).isWritable) = false := by
    rw [Bool.and_eq_false_iff]
    exact h
  rw [Shuffle.seeded, label_eq, hnot]
  rfl

theorem digits_of_seeded {as shuffled : List α} (h : Shuffle.seeded seed count as = .ok shuffled) :
    seed.natAbs < 10 ^ Number.digitLimit ∧ count.natAbs < 10 ^ Number.digitLimit := by
  have hwritable {n : Int} (hn : (Value.int n).isWritable = false →
      Shuffle.seeded seed count as = .error .tooLongToWrite) : n.natAbs < 10 ^ Number.digitLimit := by
    by_contra hlong
    rw [hn (Bool.eq_false_iff.mpr (mt isWritable_int.mp hlong))] at h
    cases h
  exact ⟨hwritable fun hseed => seeded_eq_error (.inl hseed) as,
    hwritable fun hcount => seeded_eq_error (.inr hcount) as⟩

end Seeded

/-- A shuffle moves places only. Its seed, its number and how many items there are fix one permutation
of the places, which is made of exchanges drawn for each place but the first, from the last one down,
with one that is not above it. Whatever the items are, they come out rearranged by it: none is lost or
doubled, and they can be changed one by one before the shuffle or after it. -/
theorem places_permuted {seed count : Int} (hseed : seed.natAbs < 10 ^ Number.digitLimit)
    (hcount : count.natAbs < 10 ^ Number.digitLimit) (n : ℕ) :
    ∃ σ : Equiv.Perm (Fin n),
      (∃ drawn, Shuffle.Drawn n (Shuffle.generator (toString seed ++ ":" ++ toString count)) drawn ∧
        σ = Shuffle.rearrangement drawn) ∧
      ∀ (α : Type) (as : Fin n → α),
        Shuffle.seeded seed count (List.ofFn as) = .ok (List.ofFn (as ∘ σ)) ∧
        (List.ofFn (as ∘ σ)).Perm (List.ofFn as) ∧
        ∀ (β : Type) (f : α → β), Shuffle.seeded seed count ((List.ofFn as).map f) =
          (Shuffle.seeded seed count (List.ofFn as)).map (List.map f) := by
  obtain ⟨drawn, hdrawn⟩ :=
    Shuffle.exists_drawn n (Shuffle.generator (toString seed ++ ":" ++ toString count))
  refine ⟨Shuffle.rearrangement drawn, ⟨drawn, hdrawn, rfl⟩, fun α as => ⟨?_, ?_, ?_⟩⟩
  · rw [seeded_eq (isWritable_of_lt hseed) (isWritable_of_lt hcount), Shuffle.labelled_ofFn hdrawn as]
  · exact (Shuffle.rearrangement drawn).ofFn_comp_perm as
  · exact fun β f => Shuffle.seeded_map seed count f (List.ofFn as)

/-- Three letters come out of a shuffle rearranged, as their places do. -/
theorem places_permuted_three :
    (7 : Int).natAbs < 10 ^ Number.digitLimit ∧ (0 : Int).natAbs < 10 ^ Number.digitLimit ∧
      ∃ σ : Equiv.Perm (Fin 3),
        Shuffle.seeded (7 : Int) (0 : Int) ['a', 'b', 'c'] =
          .ok [['a', 'b', 'c'].get (σ 0), ['a', 'b', 'c'].get (σ 1), ['a', 'b', 'c'].get (σ 2)] ∧
        Shuffle.seeded (7 : Int) (0 : Int) [0, 1, 2] = .ok [(σ 0).val, (σ 1).val, (σ 2).val] := by
  have hseed : (7 : Int).natAbs < 10 ^ Number.digitLimit := by decide +kernel
  have hcount : (0 : Int).natAbs < 10 ^ Number.digitLimit := by decide +kernel
  obtain ⟨σ, -, hσ⟩ := places_permuted hseed hcount 3
  refine ⟨hseed, hcount, σ, (hσ Char (['a', 'b', 'c'].get)).1, (hσ Nat Fin.val).1⟩

/-- No two items are shuffled by a seed of too many digits, or for a shuffle whose number has too many. -/
theorem nothing_permuted :
    (¬∃ σ : Equiv.Perm (Fin 2), ∀ as : Fin 2 → Nat,
        Shuffle.seeded ((10 : Int) ^ 4300) (0 : Int) (List.ofFn as) = .ok (List.ofFn (as ∘ σ))) ∧
      ¬∃ σ : Equiv.Perm (Fin 2), ∀ as : Fin 2 → Nat,
        Shuffle.seeded (7 : Int) ((10 : Int) ^ 4300) (List.ofFn as) = .ok (List.ofFn (as ∘ σ)) := by
  have hlong : (Value.int ((10 : Int) ^ 4300)).isWritable = false := by decide +kernel
  constructor
  · rintro ⟨σ, h⟩
    have hok := h Fin.val
    rw [seeded_eq_error (.inl hlong)] at hok
    cases hok
  · rintro ⟨σ, h⟩
    have hok := h Fin.val
    rw [seeded_eq_error (.inr hlong)] at hok
    cases hok

variable {rules : Rulebook String} {shuffle : Shuffler String Int} {s s₀ : State String Int}

namespace State

end State

theorem newGame_single {c : Card String} (hcards : rules.cards = [c]) (id : String) (seed : Int)
    (names : List String) (hseed : (Value.int seed).isWritable = true)
    (hseats : rules.seats names.length = true) :
    ∃ s₀ : State String Int, newGame rules Shuffle.seeded id seed names = .ok s₀ ∧
      newGame rules unshuffled id seed names = .ok s₀ := by
  have hcount : (Value.int 0).isWritable = true := by decide +kernel
  obtain ⟨shuffled, hdealt⟩ := exists_seeded hseed hcount rules.cards
  have hsame : shuffled = rules.cards := by
    rw [hcards] at hdealt ⊢
    exact List.perm_singleton.mp (permutes_seeded _ _ _ _ hdealt)
  rw [hsame] at hdealt
  exact ⟨_, State.newGame_eq_ok.mpr ⟨hseats, _, hdealt, rfl⟩,
    State.newGame_eq_ok.mpr ⟨hseats, _, rfl, rfl⟩⟩

end GuildCards
