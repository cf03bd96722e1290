import Mathlib
import GuildCards.Proofs.Session.Calls

/-!
What becomes of one game of a session. While no id is given twice and the store gives back what was
saved, a game comes with the call that creates it, changes with each move that is accepted in it and
with nothing else, and is never lost.
-/
namespace GuildCards
open Document

/-- A store gives back a game as it was saved, and every other as it was before. -/
def Store.Keeps (σ : Type) [Store σ String Int] (rules : Rulebook String) (g : State String Int) :
    Prop :=
  ∀ (store store' : σ) (id : String), Store.save store id g = .ok store' → ∀ other,
    Store.load rules store' other = if other = id then .ok (some g) else Store.load rules store other

theorem MemoryStore.keeps (rules : Rulebook String) (g : State String Int) :
    Store.Keeps (MemoryStore String Int) rules g := by
  intro store store' id h other
  obtain rfl := Except.ok.inj h
  change Except.ok ((Keyed.put id g store.games).get? other) = _
  rw [Keyed.get?_put]
  split_ifs with h₁ h₂ h₂
  · rfl
  · exact absurd h₁.symm h₂
  · exact absurd h₂.symm h₁
  · rfl

namespace Transcript

theorem judged_append (t u : Transcript) (id : String) :
    judged (t ++ u) id = t.judged id ++ u.judged id := List.filterMap_append

theorem saved_append (t u : Transcript) : saved (t ++ u) = t.saved ++ u.saved :=
  List.filterMap_append

theorem submitted_append (t u : Transcript) (id : String) :
    submitted (t ++ u) id = t.submitted id ++ u.submitted id := by
  rw [submitted, judged_append, List.map_append]
  rfl

theorem accepted_append (t u : Transcript) (id : String) :
    accepted (t ++ u) id = t.accepted id ++ u.accepted id := by
  rw [accepted, judged_append, List.filter_append, List.map_append]
  rfl

end Transcript

namespace Session
variable {σ : Type} [Store σ String Int] {s t : Session σ String} {c : Call} {x : Reply}
  {cs ds : List Call} {id : String} {g : State String Int}

def Keeps (s : Session σ String) (cs : List Call) : Prop :=
  ∀ g ∈ (s.transcript cs).saved, Store.Keeps σ s.rules g

theorem run_same (s : Session σ String) (cs : List Call) :
    (s.run cs).rules = s.rules ∧ (s.run cs).supply = s.supply ∧ s.made ≤ (s.run cs).made := by
  induction cs generalizing s with
  | nil => exact ⟨rfl, rfl, le_rfl⟩
  | cons c cs ih =>
    have hc := s.outcome c
    obtain ⟨hrules, hsupply, hmade⟩ := ih (s.next c)
    exact ⟨hrules.trans hc.rules_eq, hsupply.trans hc.supply_eq, hc.made_le.trans hmade⟩

omit [Store σ String Int] in
theorem ids_grow (hsupply : t.supply = s.supply) (hmade : s.made ≤ t.made) :
    s.ids <+: t.ids := by
  obtain ⟨n, hn⟩ := Nat.exists_eq_add_of_le hmade
  rw [ids, ids, hsupply, hn, List.range_add, List.map_append]
  exact List.prefix_append _ _

theorem nodup_ids_run (ds : List Call) (h : (s.run ds).ids.Nodup) : s.ids.Nodup :=
  h.sublist (ids_grow (s.run_same ds).2.1 (s.run_same ds).2.2).sublist

theorem Keeps.left (h : s.Keeps (cs ++ ds)) : s.Keeps cs := by
  intro g hg
  apply h g
  rw [transcript_append, Transcript.saved_append]
  exact List.mem_append_left _ hg

theorem Keeps.right (h : s.Keeps (cs ++ ds)) : (s.run cs).Keeps ds := by
  intro g hg
  rw [(s.run_same cs).1]
  apply h g
  rw [transcript_append, Transcript.saved_append]
  exact List.mem_append_right _ hg

theorem Keeps.cons (h : s.Keeps (c :: cs)) : s.Keeps [c] ∧ (s.next c).Keeps cs := by
  have happend : s.Keeps ([c] ++ cs) := h
  exact ⟨happend.left, happend.right⟩

theorem Holds.inj {h : State String Int} (hg : s.Holds id g) (hh : s.Holds id h) : g = h :=
  Option.some.inj (Except.ok.inj (Eq.trans hg.symm hh))

/-- What a call does to a game that is held: nothing, or a move is judged in it. -/
inductive Fate (s : Session σ String) (id : String) (g : State String Int) (c : Call) (x : Reply) :
    State String Int → Prop where
  | spared (judged : Transcript.judged [(c, x)] id = []) : Fate s id g c x g
  | refused {m : Move} {why : Refusal} (h : g.play s.rules Shuffle.seeded m = .error why)
    (judged : Transcript.judged [(c, x)] id = [(m, ⟨.error why, g⟩)]) : Fate s id g c x g
  | played {m : Move} {r r' : Played String Int} (h : g.play s.rules Shuffle.seeded m = .ok r)
    (judged : Transcript.judged [(c, x)] id = [(m, ⟨.ok r', s.settled r.state⟩)]) :
    Fate s id g c x (s.settled r.state)

theorem judged_of_submission (h : x.submission? = none) :
    Transcript.judged [(c, x)] id = [] := by
  cases c <;> simp [Transcript.judged, h]

theorem judged_submit {m : Move} {y : Submission String Int} (h : x.submission? = some y) :
    Transcript.judged [(.submit id m, x)] id = [(m, y)] := by
  simp [Transcript.judged, h]

theorem judged_submit_of_ne {other : String} {m : Move} (h : other ≠ id) :
    Transcript.judged [(.submit other m, x)] id = [] := by
  simp [Transcript.judged, h]

omit [Store σ String Int] in
theorem new_id (hids : t.ids.Nodup) (hsupply : t.supply = s.supply)
    (hmade : t.made = s.made + 1) : s.supply.id s.made ∉ s.ids := by
  rw [ids, hsupply, hmade, List.range_succ, List.map_append, List.nodup_append] at hids
  exact fun h => hids.2.2 _ h _ List.mem_cons_self rfl

theorem Outcome.fate (h : Outcome s c x t)
    (hkeeps : ∀ g', x.saved? c = some g' → Store.Keeps σ s.rules g') (hids : t.ids.Nodup)
    (hid : id ∈ s.ids) (hg : s.Holds id g) : ∃ g', Fate s id g c x g' ∧ t.Holds id g' := by
  cases h with
  | stays rules _ store _ _ submission =>
    refine ⟨g, .spared (judged_of_submission submission), ?_⟩
    rwa [Holds, rules, store]
  | creates dealt saved =>
    refine ⟨g, .spared rfl, ?_⟩
    have hnew : id ≠ s.supply.id s.made := fun h => new_id (s := s) hids rfl rfl (h ▸ hid)
    rw [Holds, hkeeps _ rfl _ _ _ saved, if_neg hnew]
    exact hg
  | @refuses other m g' why log held refused =>
    by_cases hother : other = id
    · obtain rfl := hother
      obtain rfl := hg.inj held
      exact ⟨g, .refused refused (judged_submit rfl), hg⟩
    · exact ⟨g, .spared (judged_submit_of_ne hother), hg⟩
  | @plays other m g' r log store held played saved =>
    by_cases hother : other = id
    · obtain rfl := hother
      obtain rfl := hg.inj held
      refine ⟨_, .played played (judged_submit rfl), ?_⟩
      rw [Holds, hkeeps _ rfl _ _ _ saved, if_pos rfl]
    · refine ⟨g, .spared (judged_submit_of_ne hother), ?_⟩
      rw [Holds, hkeeps _ rfl _ _ _ saved, if_neg (Ne.symm hother)]
      exact hg

theorem Outcome.origin (h : Outcome s c x t)
    (hkeeps : ∀ g', x.saved? c = some g' → Store.Keeps σ s.rules g')
    (hid : Store.load s.rules s.store id = .ok none) :
    Transcript.judged [(c, x)] id = [] ∧
      (Store.load t.rules t.store id = .ok none ∨
        ∃ names seed g, id = s.supply.id s.made ∧ t.made = s.made + 1 ∧
          newGame s.rules Shuffle.seeded id (seed.getD (s.supply.seed s.made)) names = .ok g ∧
          c = .create names seed ∧ x.value = .ok (.game (s.opened g)) ∧ t.Holds id (s.opened g)) := by
  cases h with
  | stays rules _ store _ _ submission =>
    refine ⟨judged_of_submission submission, .inl ?_⟩
    rwa [rules, store]
  | @creates names seed g log store dealt saved =>
    refine ⟨rfl, ?_⟩
    have hload := hkeeps _ rfl _ _ _ saved id
    by_cases hnew : id = s.supply.id s.made
    · rw [if_pos hnew] at hload
      exact .inr ⟨names, seed, g, hnew, rfl, hnew ▸ dealt, rfl, rfl, hload⟩
    · rw [if_neg hnew] at hload
      exact .inl (hload.trans hid)
  | @refuses other m g why log held refused =>
    have hother : other ≠ id := by
      rintro rfl
      cases hid.symm.trans held
    exact ⟨judged_submit_of_ne hother, .inl hid⟩
  | @plays other m g r log store held played saved =>
    have hother : other ≠ id := by
      rintro rfl
      cases hid.symm.trans held
    refine ⟨judged_submit_of_ne hother, .inl ?_⟩
    rw [hkeeps _ rfl _ _ _ saved, if_neg (Ne.symm hother)]
    exact hid

theorem Keeps.saved (h : s.Keeps [c]) :
    ∀ g, (s.reply c).saved? c = some g → Store.Keeps σ s.rules g := by
  intro g hg
  exact h g (by simp [transcript, Transcript.saved, hg])

theorem Holds.run {P : State String Int → Prop} (hg : s.Holds id g) (hid : id ∈ s.ids)
    (start : P g)
    (plays : ∀ {g : State String Int} {m : Move} {r : Played String Int} (now : Number.Real64), P g →
      g.play s.rules Shuffle.seeded m = .ok r →
      P ((r.state.closed s.rules).note updatedAt now))
    (cs : List Call) (hids : (s.run cs).ids.Nodup) (hkeeps : s.Keeps cs) :
    ∃ g', (s.run cs).Holds id g' ∧ P g' := by
  induction cs generalizing s g with
  | nil => exact ⟨g, hg, start⟩
  | cons c cs ih =>
    have hc := s.outcome c
    have hids' : (s.next c).ids.Nodup := nodup_ids_run cs hids
    obtain ⟨hfirst, hlater⟩ := hkeeps.cons
    obtain ⟨g', hfate, hg'⟩ := hc.fate hfirst.saved hids' hid hg
    refine ih hg' ((ids_grow hc.supply_eq hc.made_le).subset hid) ?_ ?_ hids hlater
    · cases hfate with
      | spared => exact start
      | refused => exact start
      | played h => exact plays _ start h
    · rw [hc.rules_eq]
      exact plays

/-- What holds of a new game and outlasts every call, with the transcript, holds of a game once it is
held; before that nothing is judged in it. -/
theorem Fresh.none_or_held {P : Transcript → State String Int → Prop} (hs : s.Fresh)
    (creates : ∀ {t : Transcript} {names : List String} {seed : Option Int} {n : Int} {k : Nat}
      {x : Reply} {g : State String Int},
      newGame s.rules Shuffle.seeded id (seed.getD n) names = .ok g → t.judged id = [] →
      x.value = .ok (.game ((g.note createdAt (s.supply.time k)).note updatedAt (s.supply.time k))) →
      P (t ++ [(.create names seed, x)])
        ((g.note createdAt (s.supply.time k)).note updatedAt (s.supply.time k)))
    (goes : ∀ {t : Transcript} {u : Session σ String} {c : Call} {x : Reply}
      {g g' : State String Int}, u.rules = s.rules → P t g → Fate u id g c x g' →
      P (t ++ [(c, x)]) g')
    (cs : List Call) (hids : (s.run cs).ids.Nodup) (hkeeps : s.Keeps cs) :
    (Store.load s.rules (s.run cs).store id = .ok none ∧ (s.transcript cs).judged id = []) ∨
      ∃ g, (s.run cs).Holds id g ∧ id ∈ (s.run cs).ids ∧ P (s.transcript cs) g := by
  induction cs using List.reverseRecOn with
  | nil => exact .inl ⟨hs.empty id, rfl⟩
  | append_singleton cs c ih =>
    have hc := (s.run cs).outcome c
    have hsaved := Keeps.saved hkeeps.right
    obtain ⟨hrules, hsupply, -⟩ := s.run_same cs
    rw [run_concat] at hids
    rw [run_concat, transcript_concat]
    rcases ih (nodup_ids_run [c] hids) hkeeps.left with ⟨hnone, hjudged⟩ | ⟨g, hg, hid, hP⟩
    · obtain ⟨hquiet, horigin⟩ := hc.origin hsaved (hrules ▸ hnone)
      rcases horigin with hnone' | ⟨names, seed, g, hnew, hmade, hdealt, hcreate, hx, hg⟩
      · refine .inl ⟨?_, ?_⟩
        · rwa [hc.rules_eq, hrules] at hnone'
        · rw [Transcript.judged_append, hjudged, hquiet]
          rfl
      · refine .inr ⟨_, hg, ?_, ?_⟩
        · rw [ids, hmade, hnew, hc.supply_eq]
          exact List.mem_map_of_mem (List.mem_range.mpr (Nat.lt_succ_self _))
        · rw [hrules] at hdealt
          rw [opened, hsupply] at hx ⊢
          subst hcreate
          exact creates hdealt hjudged hx
    · obtain ⟨g', hfate, hg'⟩ := hc.fate hsaved hids hid hg
      exact .inr ⟨g', hg', (ids_grow hc.supply_eq hc.made_le).subset hid, goes hrules hP hfate⟩

theorem Fresh.held {P : Transcript → State String Int → Prop} (hs : s.Fresh)
    (creates : ∀ {t : Transcript} {names : List String} {seed : Option Int} {n : Int} {k : Nat}
      {x : Reply} {g : State String Int},
      newGame s.rules Shuffle.seeded id (seed.getD n) names = .ok g → t.judged id = [] →
      x.value = .ok (.game ((g.note createdAt (s.supply.time k)).note updatedAt (s.supply.time k))) →
      P (t ++ [(.create names seed, x)])
        ((g.note createdAt (s.supply.time k)).note updatedAt (s.supply.time k)))
    (goes : ∀ {t : Transcript} {u : Session σ String} {c : Call} {x : Reply}
      {g g' : State String Int}, u.rules = s.rules → P t g → Fate u id g c x g' →
      P (t ++ [(c, x)]) g')
    (hids : (s.run cs).ids.Nodup) (hkeeps : s.Keeps cs) (hg : (s.run cs).Holds id g) :
    id ∈ (s.run cs).ids ∧ P (s.transcript cs) g := by
  rcases hs.none_or_held creates goes cs hids hkeeps with ⟨hnone, -⟩ | ⟨g', hg', hid, hP⟩
  · rw [Holds, (s.run_same cs).1, hnone] at hg
    cases hg
  · exact ⟨hid, hg.inj hg' ▸ hP⟩

end Session

def smallRulebook : Rulebook String :=
  { sampleRulebook with cards := sampleRulebook.cards.take 1, handSize := 1, deckSize := 0 }

/-- A session that numbers its games g, gg, ggg and so on. -/
def sampleSession : Session (MemoryStore String Int) String where
  rules := smallRulebook
  supply := {
    time n := Number.Real64.ofNat (1000 + n)
    id n := String.ofList (List.replicate (n + 1) 'g')
    seed _ := 7 }
  store := {}

theorem fresh_sample : sampleSession.Fresh := ⟨fun _ => rfl, rfl⟩

theorem keeps_sample (cs : List Call) : sampleSession.Keeps cs := fun g _ => MemoryStore.keeps _ g

def sampleCalls : List Call :=
  [.create ["Ada", "Ben"] (some 7), .create ["Cyd"] none, .create ["Cyd", "Dan"] none,
   .submit "g" (.plain .endTurn "player-2"), .submit "g" (.plain .endTurn "player-1"),
   .submit "g" (.plain .endTurn "player-1"), .submit "ggg" (.plain .endTurn "player-1"), .get "gg"]

end GuildCards
